import ServerMigration.Json.Reader
import ServerMigration.Proofs.Json.Lexing

/-!
# Reading written documents back

The tokens of a value take a reader from the place where a value may stand to the place behind it,
with this value as the latest one, as long as the value does not nest too deeply.

## Main definitions

* `Json.depth` : how deeply containers are nested.

## Main results

* `Json.parse?_compact`, `Json.parse?_indented` : a value is read back from both of its forms.
-/

namespace ServerMigration.Json

mutual

/-- How many containers are nested, at most. -/
def depth : Json → Nat
  | .array items => depthItems items + 1
  | .object fields => depthFields fields + 1
  | .null | .bool _ | .number _ | .string _ => 0

/-- `depth` for the items of an array. -/
def depthItems : List Json → Nat
  | [] => 0
  | item :: items => max (depth item) (depthItems items)

/-- `depth` for the fields of an object. -/
def depthFields : List (String × Json) → Nat
  | [] => 0
  | (_, value) :: fields => max (depth value) (depthFields fields)

end

theorem depthItems_le_iff {items : List Json} {bound : Nat} :
    depthItems items ≤ bound ↔ ∀ item ∈ items, item.depth ≤ bound := by
  induction items with
  | nil => simp [depthItems]
  | cons item items ih => rw [depthItems, Nat.max_le, ih, List.forall_mem_cons]

theorem depthFields_le_iff {fields : List (String × Json)} {bound : Nat} :
    depthFields fields ≤ bound ↔ ∀ field ∈ fields, field.2.depth ≤ bound := by
  induction fields with
  | nil => simp [depthFields]
  | cons field fields ih => rw [depthFields, Nat.max_le, ih, List.forall_mem_cons]

namespace Reader

/-- Goes on with tokens; none at the first one that does not fit. -/
def run (reader : Reader) (tokens : List Token) : Option Reader := tokens.foldlM step reader

theorem run_cons (reader : Reader) (token : Token) (tokens : List Token) :
    reader.run (token :: tokens) = (reader.step token).bind (·.run tokens) := rfl

/-- The first item of an array is read like any other value. -/
theorem run_firstItem (items : List Json) (frames : List Frame) (json : Json) (rest : List Token) :
    run ⟨.array items :: frames, .firstItem⟩ (json.tokensOf ++ rest)
      = run ⟨.array items :: frames, .value⟩ (json.tokensOf ++ rest) := by
  cases json
  all_goals rfl

mutual

/-- **The tokens of a value are read as that value.** -/
theorem run_tokensOf : ∀ (json : Json) (frames : List Frame) (rest : List Token),
    frames.length + json.depth ≤ maxDepth →
    run ⟨frames, .value⟩ (json.tokensOf ++ rest) = run ⟨frames, .more json⟩ rest
  | .null, _, _, _ => rfl
  | .bool _, _, _, _ => rfl
  | .number _, _, _, _ => rfl
  | .string _, _, _, _ => rfl
  | .array [], frames, rest, h => by
    have hroom : frames.length < maxDepth := by rw [depth] at h; omega
    have hopen : step ⟨frames, .value⟩ .openArray = some ⟨.array [] :: frames, .firstItem⟩ :=
      if_pos hroom
    show run ⟨frames, .value⟩ (.openArray :: .closeArray :: rest) = _
    rw [run_cons, hopen]
    rfl
  | .array (item :: items), frames, rest, h => by
    rw [depth, depthItems] at h
    have hroom : frames.length < maxDepth := by omega
    have hopen : step ⟨frames, .value⟩ .openArray = some ⟨.array [] :: frames, .firstItem⟩ :=
      if_pos hroom
    have htokens : (array (item :: items)).tokensOf ++ rest
        = .openArray :: (item.tokensOf ++ (laterItems items ++ .closeArray :: rest)) := by
      simp [tokensOf, itemTokens]
    have hitem := run_tokensOf item (.array [] :: frames) (laterItems items ++ .closeArray :: rest)
      (by rw [List.length_cons]; omega)
    rw [htokens, run_cons, hopen, Option.bind_some, run_firstItem, hitem,
      run_laterItems items [] item frames rest (by omega)]
    rfl
  | .object [], frames, rest, h => by
    have hroom : frames.length < maxDepth := by rw [depth] at h; omega
    have hopen : step ⟨frames, .value⟩ .openObject = some ⟨frames, .firstKey⟩ := if_pos hroom
    show run ⟨frames, .value⟩ (.openObject :: .closeObject :: rest) = _
    rw [run_cons, hopen]
    rfl
  | .object ((key, value) :: fields), frames, rest, h => by
    rw [depth, depthFields] at h
    have hroom : frames.length < maxDepth := by omega
    have hopen : step ⟨frames, .value⟩ .openObject = some ⟨frames, .firstKey⟩ := if_pos hroom
    have htokens : (object ((key, value) :: fields)).tokensOf ++ rest
        = .openObject :: .string key :: .colon ::
          (value.tokensOf ++ (laterFields fields ++ .closeObject :: rest)) := by
      simp [tokensOf, fieldTokens]
    have hvalue := run_tokensOf value (.object [] key :: frames)
      (laterFields fields ++ .closeObject :: rest) (by rw [List.length_cons]; omega)
    rw [htokens, run_cons, hopen, Option.bind_some]
    show run ⟨.object [] key :: frames, .value⟩ _ = _
    rw [hvalue, run_laterFields fields [] key value frames rest (by omega)]
    rfl

theorem run_laterItems : ∀ (items earlier : List Json) (latest : Json) (frames : List Frame)
    (rest : List Token), frames.length + 1 + depthItems items ≤ maxDepth →
    run ⟨.array earlier :: frames, .more latest⟩ (laterItems items ++ .closeArray :: rest)
      = run ⟨frames, .more (.array (earlier.reverse ++ latest :: items))⟩ rest
  | [], earlier, latest, frames, rest, _ => by
    rw [laterItems, List.nil_append, run_cons]
    simp [step]
  | item :: items, earlier, latest, frames, rest, h => by
    rw [depthItems] at h
    have hitem := run_tokensOf item (.array (latest :: earlier) :: frames)
      (laterItems items ++ .closeArray :: rest) (by rw [List.length_cons]; omega)
    have hlater := run_laterItems items (latest :: earlier) item frames rest (by omega)
    rw [laterItems, List.cons_append, List.cons_append, List.append_assoc, run_cons]
    show run ⟨.array (latest :: earlier) :: frames, .value⟩ _ = _
    rw [hitem, hlater]
    simp

theorem run_laterFields : ∀ (fields earlier : List (String × Json)) (key : String) (latest : Json)
    (frames : List Frame) (rest : List Token),
    frames.length + 1 + depthFields fields ≤ maxDepth →
    run ⟨.object earlier key :: frames, .more latest⟩ (laterFields fields ++ .closeObject :: rest)
      = run ⟨frames, .more (.object (earlier.reverse ++ (key, latest) :: fields))⟩ rest
  | [], earlier, key, latest, frames, rest, _ => by
    rw [laterFields, List.nil_append, run_cons]
    simp [step]
  | (next, value) :: fields, earlier, key, latest, frames, rest, h => by
    rw [depthFields] at h
    have hvalue := run_tokensOf value (.object ((key, latest) :: earlier) next :: frames)
      (laterFields fields ++ .closeObject :: rest) (by rw [List.length_cons]; omega)
    have hlater := run_laterFields fields ((key, latest) :: earlier) next value frames rest
      (by omega)
    have htokens : laterFields ((next, value) :: fields) ++ .closeObject :: rest
        = .comma :: .string next :: .colon ::
          (value.tokensOf ++ (laterFields fields ++ .closeObject :: rest)) := by
      simp [laterFields]
    rw [htokens, run_cons]
    show run ⟨.object ((key, latest) :: earlier) next :: frames, .value⟩ _ = _
    rw [hvalue, hlater]
    simp

end

end Reader

theorem result?_run_tokensOf {json : Json} (h : json.depth ≤ Reader.maxDepth) :
    (Reader.start.run json.tokensOf).bind Reader.result? = some json := by
  have hrun := Reader.run_tokensOf json [] [] (by rw [List.length_nil]; omega)
  rw [List.append_nil] at hrun
  rw [Reader.start, hrun]
  rfl

section

variable {json : Json} (plain : json.Plain) (h : json.depth ≤ Reader.maxDepth)

include plain h

/-- **A value is read back from its compact form.** -/
theorem parse?_compact : parse? json.compact = some json := by
  show (Reader.start.run (tokens json.compact)).bind Reader.result? = _
  rw [tokens_compact plain, result?_run_tokensOf h]

/-- **A value is read back from its indented form.** -/
theorem parse?_indented : parse? json.indented = some json := by
  show (Reader.start.run (tokens json.indented)).bind Reader.result? = _
  rw [tokens_indented plain, result?_run_tokensOf h]

end

end ServerMigration.Json
