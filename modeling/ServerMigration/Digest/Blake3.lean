/-!
# BLAKE3 in key-derivation mode

A message is cut into chunks of 1024 bytes and these into blocks of 64 bytes.  A chunk's blocks
are compressed one after another into a chaining value, and the chaining values of the chunks are
joined in a binary tree whose left subtrees are complete.  In key-derivation mode a context text
is hashed first, and its digest keys the hash of the material.

## Main definitions

* `compress` : the compression function.
* `Node` : an input of the compression function whose output is still open.
* `rootWords` : the chaining value of a whole message.
* `deriveKey` : 32 bytes derived from a context and some material.
-/

namespace ServerMigration.Blake3

/-- Eight words: a chaining value or a key. -/
abbrev ChainingValue : Type := Vector UInt32 8

/-- The initial chaining value. -/
def initial : ChainingValue :=
  #v[0x6A09E667, 0xBB67AE85, 0x3C6EF372, 0xA54FF53A, 0x510E527F, 0x9B05688C, 0x1F83D9AB, 0x5BE0CD19]

/-- Flags that tell the uses of the compression function apart. -/
def chunkStart : UInt32 := 1

@[inherit_doc chunkStart]
def chunkEnd : UInt32 := 2

@[inherit_doc chunkStart]
def parent : UInt32 := 4

@[inherit_doc chunkStart]
def root : UInt32 := 8

@[inherit_doc chunkStart]
def keyContext : UInt32 := 32

@[inherit_doc chunkStart]
def keyMaterial : UInt32 := 64

/-- Rotation to the right. -/
def rotateRight (x : UInt32) (n : UInt32) : UInt32 :=
  (x >>> n) ||| (x <<< (32 - n))

/-- Mixes two message words into four words of the state. -/
def mix (s : Vector UInt32 16) (a b c d : Fin 16) (x y : UInt32) : Vector UInt32 16 :=
  let s := s.set a (s[a] + s[b] + x)
  let s := s.set d (rotateRight (s[d] ^^^ s[a]) 16)
  let s := s.set c (s[c] + s[d])
  let s := s.set b (rotateRight (s[b] ^^^ s[c]) 12)
  let s := s.set a (s[a] + s[b] + y)
  let s := s.set d (rotateRight (s[d] ^^^ s[a]) 8)
  let s := s.set c (s[c] + s[d])
  s.set b (rotateRight (s[b] ^^^ s[c]) 7)

/-- One round: the columns of the state, then its diagonals. -/
def round (s m : Vector UInt32 16) : Vector UInt32 16 :=
  let s := mix s 0 4 8 12 m[0] m[1]
  let s := mix s 1 5 9 13 m[2] m[3]
  let s := mix s 2 6 10 14 m[4] m[5]
  let s := mix s 3 7 11 15 m[6] m[7]
  let s := mix s 0 5 10 15 m[8] m[9]
  let s := mix s 1 6 11 12 m[10] m[11]
  let s := mix s 2 7 8 13 m[12] m[13]
  mix s 3 4 9 14 m[14] m[15]

/-- The order of the message words in the next round. -/
def permute (m : Vector UInt32 16) : Vector UInt32 16 :=
  #v[m[2], m[6], m[3], m[10], m[7], m[0], m[4], m[13], m[1], m[11], m[12], m[5], m[9], m[14],
    m[15], m[8]]

/-- Some rounds, with the message words permuted between them. -/
def rounds : (count : Nat) → (s m : Vector UInt32 16) → Vector UInt32 16
  | 0, s, _ => s
  | count + 1, s, m => rounds count (round s m) (permute m)

/-- An input of the compression function whose output is still open: it may become a chaining
value or the root. -/
structure Node where
  /-- The chaining value so far. -/
  value : ChainingValue
  /-- The message block. -/
  block : Vector UInt32 16
  /-- The index of the chunk. -/
  counter : UInt64
  /-- The number of message bytes in the block. -/
  length : UInt32
  /-- The flags. -/
  flags : UInt32

/-- The chaining value of a node. -/
def compress (n : Node) : ChainingValue :=
  let v := n.value
  let low := n.counter.toUInt32
  let high := (n.counter >>> 32).toUInt32
  let s := rounds 7 #v[v[0], v[1], v[2], v[3], v[4], v[5], v[6], v[7], initial[0], initial[1],
    initial[2], initial[3], low, high, n.length, n.flags] n.block
  #v[s[0] ^^^ s[8], s[1] ^^^ s[9], s[2] ^^^ s[10], s[3] ^^^ s[11], s[4] ^^^ s[12], s[5] ^^^ s[13],
    s[6] ^^^ s[14], s[7] ^^^ s[15]]

/-- The pieces of a list, each of `n + 1` elements but for the last, which may be shorter. -/
def pieces {α : Type} (n : Nat) : List α → List (List α)
  | [] => []
  | x :: xs => (x :: xs.take n) :: pieces n (xs.drop n)
termination_by xs => xs.length
decreasing_by simp only [List.length_drop, List.length_cons]; omega

/-- The word at a place of a block, least significant byte first; missing bytes are zero. -/
def wordAt (bytes : List UInt8) (i : Nat) : UInt32 :=
  ((bytes.drop (4 * i)).take 4).foldr (fun b n => n <<< 8 ||| b.toUInt32) 0

/-- The words of a block. -/
def blockWords (bytes : List UInt8) : Vector UInt32 16 :=
  Vector.ofFn fun i => wordAt bytes i

/-- Compresses the blocks of a chunk but the last, whose node is left open. -/
def chunkNode (flags : UInt32) (counter : UInt64) (value : ChainingValue) (start : UInt32) :
    List (List UInt8) → Node
  | [] => ⟨value, blockWords [], counter, 0, flags ||| start ||| chunkEnd⟩
  | [block] =>
    ⟨value, blockWords block, counter, block.length.toUInt32, flags ||| start ||| chunkEnd⟩
  | block :: blocks =>
    let node : Node :=
      ⟨value, blockWords block, counter, block.length.toUInt32, flags ||| start⟩
    chunkNode flags counter (compress node) 0 blocks

/-- The node that joins two subtrees. -/
def parentNode (key : ChainingValue) (flags : UInt32) (left right : ChainingValue) : Node :=
  ⟨key, (left ++ right).cast rfl, 0, 64, flags ||| parent⟩

/-- Complete subtrees, the latest first, each with its height. -/
abbrev Forest : Type := List (Nat × ChainingValue)

/-- Adds a complete subtree and joins it with earlier ones of its height. -/
def pushTree (key : ChainingValue) (flags : UInt32) (height : Nat) (value : ChainingValue) :
    Forest → Forest
  | [] => [(height, value)]
  | (h, left) :: forest =>
    if h = height then
      pushTree key flags (height + 1) (compress (parentNode key flags left value)) forest
    else (height, value) :: (h, left) :: forest

/-- Joins the open node of the last chunk with the subtrees before it. -/
def closeTree (key : ChainingValue) (flags : UInt32) (node : Node) : Forest → Node
  | [] => node
  | (_, left) :: forest => closeTree key flags (parentNode key flags left (compress node)) forest

/-- The open root of a list of chunks, of which the first has the given index. -/
def treeNode (key : ChainingValue) (flags : UInt32) (counter : Nat) (forest : Forest) :
    List (List UInt8) → Node
  | [] => closeTree key flags (chunkNode flags counter.toUInt64 key chunkStart []) forest
  | [chunk] =>
    closeTree key flags (chunkNode flags counter.toUInt64 key chunkStart (pieces 63 chunk)) forest
  | chunk :: chunks =>
    let value := compress (chunkNode flags counter.toUInt64 key chunkStart (pieces 63 chunk))
    treeNode key flags (counter + 1) (pushTree key flags 0 value forest) chunks

/-- The root chaining value of a message. -/
def rootWords (key : ChainingValue) (flags : UInt32) (message : List UInt8) : ChainingValue :=
  let node := treeNode key flags 0 [] (pieces 1023 message)
  compress { node with flags := node.flags ||| root }

/-- The bytes of a word, least significant first. -/
def wordBytes (w : UInt32) : List UInt8 :=
  [w.toUInt8, (w >>> 8).toUInt8, (w >>> 16).toUInt8, (w >>> 24).toUInt8]

/-- The 32 bytes derived from a context and some material. -/
def deriveKey (context material : List UInt8) : List UInt8 :=
  let key := rootWords initial keyContext context
  (rootWords key keyMaterial material).toList.flatMap wordBytes

end ServerMigration.Blake3
