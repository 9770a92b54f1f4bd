import ServerMigration.Migration.Copying
import ServerMigration.Migration.Hooks
import ServerMigration.Proofs.Shell.Reading
import ServerMigration.Proofs.Text.Placeholders

/-!
# The words of rendered commands

The command that copies a filesystem is a template with values put into it, two of them with an
address and a path in one word; the command that runs a hook assigns a document to a variable.  A
shell reads both as meant, whatever characters stand in the values: the slots of the template are
found before any value is looked at, and each value is quoted.

## Main results

* `toList_copyCommand` : the words of the copying command as they are written.
* `rendered_commands_read_back` : both commands as a shell reads them.
-/

namespace ServerMigration

open Shell Text Text.Template

/-! ### Copying -/

/-- The keys of the template for copying. -/
def copyKeys : List String :=
  ["excludes", "ssh_command", "source_path", "target_user", "target_address", "target_path"]

/-- The options of the command for copying. -/
def copyOptions : List String := ["rsync", "-aAXHx", "--numeric-ids", "--delete"]

/-- Characters that are kept. -/
def keptText (text : String) : List Piece := text.toList.map Piece.kept

theorem filled_keptText (values : List (String × String)) (text : String) :
    (keptText text).flatMap (Piece.filled values) = text.toList := by
  simp [keptText, List.flatMap_map, Piece.filled]

/-- The pieces of the preset template. -/
theorem pieces_sync : pieces copyKeys ({} : CommandTemplates).sync.toList
    = [keptText "rsync -aAXHx --numeric-ids --delete ", [Piece.slot "excludes"], keptText " -e ",
      [Piece.slot "ssh_command"], keptText " ", [Piece.slot "source_path"], keptText " ",
      [Piece.slot "target_user"], keptText "@", [Piece.slot "target_address"], keptText ":",
      [Piece.slot "target_path"]].flatten := by
  decide +kernel

variable {source : Source}

/-- The options that leave out what is never copied, joined by blanks. -/
theorem toList_excludeOptions (patterns : List String) : (excludeOptions patterns).toList
    = joinWith [' '] (patterns.map fun pattern => ("--exclude=" ++ shellWord pattern).toList) := by
  rw [excludeOptions, String.toList_intercalate, List.map_map]
  rfl

/-- **The command that copies a filesystem, as it is written.** -/
theorem toList_copyCommand
    (preset : source.target.blueprint.commands.sync = ({} : CommandTemplates).sync)
    (target : RemoteHost) (entry : MountEntry) :
    (copyCommand source target entry).toList
      = joinWith [' '] (copyOptions.map String.toList) ++ ' ' ::
        (joinWith [' '] (source.target.blueprint.commands.syncExcludes.map fun pattern =>
            ("--exclude=" ++ shellWord pattern).toList) ++ ' ' ::
          joinWith [' '] (["-e", shellWord (sshTransport target),
            shellWord (asDirectory entry.sourceMountpoint),
            shellWord target.username ++ ("@" ++ (shellWord target.address ++ (":"
              ++ shellWord (asDirectory entry.targetMountpoint))))].map String.toList)) := by
  -- Each slot is filled with the value that has been added for it.
  have hvalues : (copyCommand source target entry).toList
      = (pieces copyKeys ({} : CommandTemplates).sync.toList).flatMap (Piece.filled
        [("excludes", excludeOptions source.target.blueprint.commands.syncExcludes),
          ("ssh_command", shellWord (sshTransport target)),
          ("source_path", shellWord (asDirectory entry.sourceMountpoint)),
          ("target_user", shellWord target.username), ("target_address", shellWord target.address),
          ("target_path", shellWord (asDirectory entry.targetMountpoint))]) := by
    rw [copyCommand, preset, render, String.toList_ofList, renderFrom_eq_filled]
    rfl
  rw [hvalues, pieces_sync]
  simp only [List.flatten_cons, List.flatMap_append, filled_keptText]
  simp [copyOptions, Piece.filled, List.lookup_cons, toList_excludeOptions, joinWith]

/-- A path that stands for a directory is the path itself, or the path with a slash behind it. -/
theorem asDirectory_spec (path : String) :
    (asDirectory path).toList.getLast? = some '/' ∧ (asDirectory path = path
      ∨ path.toList.getLast? ≠ some '/' ∧ asDirectory path = path ++ "/") := by
  rw [asDirectory]
  split
  · next h => exact ⟨h, .inl rfl⟩
  · next h => exact ⟨by simp, .inr ⟨h, rfl⟩⟩

/-- The user, the address and the path on the target are glued together in one word. -/
theorem denotes_place (user address path : String) :
    Denotes (shellWord user ++ ("@" ++ (shellWord address ++ (":" ++ shellWord path)))).toList
      (lettersOf user ++ (bareLetters "@" ++ (lettersOf address
        ++ (bareLetters ":" ++ lettersOf path)))) := by
  have hat : Denotes "@".toList (bareLetters "@") := denotes_bareLetters (by decide)
  have hcolon : Denotes ":".toList (bareLetters ":") := denotes_bareLetters (by decide)
  simp only [String.toList_append]
  exact (denotes_shellWord user).append (hat.append ((denotes_shellWord address).append
    (hcolon.append (denotes_shellWord path))))

/-- **The words of the copying command.** -/
theorem command?_copyCommand
    (preset : source.target.blueprint.commands.sync = ({} : CommandTemplates).sync)
    (target : RemoteHost) (entry : MountEntry) :
    command? (copyCommand source target entry) = some ⟨[],
        copyOptions ++ source.target.blueprint.commands.syncExcludes.map ("--exclude=" ++ ·)
          ++ ["-e", sshTransport target, asDirectory entry.sourceMountpoint,
            target.username ++ "@" ++ target.address ++ ":"
              ++ asDirectory entry.targetMountpoint]⟩ := by
  have hoptions : List.Forall₂ Denotes (copyOptions.map String.toList)
      (copyOptions.map bareLetters) := by
    rw [List.forall₂_map_left_iff, List.forall₂_map_right_iff, List.forall₂_same]
    exact fun option h => denotes_bareLetters (by revert option h; decide)
  have hexclude : Denotes "--exclude=".toList (bareLetters "--exclude=") :=
    denotes_bareLetters (by decide)
  have hexcludes : List.Forall₂ Denotes
      (source.target.blueprint.commands.syncExcludes.map fun pattern =>
        ("--exclude=" ++ shellWord pattern).toList)
      (source.target.blueprint.commands.syncExcludes.map fun pattern =>
        bareLetters "--exclude=" ++ lettersOf pattern) := by
    rw [List.forall₂_map_left_iff, List.forall₂_map_right_iff, List.forall₂_same]
    intro pattern _
    rw [String.toList_append]
    exact hexclude.append (denotes_shellWord pattern)
  have hplaces : List.Forall₂ Denotes
      (["-e", shellWord (sshTransport target), shellWord (asDirectory entry.sourceMountpoint),
        shellWord target.username ++ ("@" ++ (shellWord target.address
          ++ (":" ++ shellWord (asDirectory entry.targetMountpoint))))].map String.toList)
      [bareLetters "-e", lettersOf (sshTransport target),
        lettersOf (asDirectory entry.sourceMountpoint),
        lettersOf target.username ++ (bareLetters "@" ++ (lettersOf target.address
          ++ (bareLetters ":" ++ lettersOf (asDirectory entry.targetMountpoint))))] :=
    .cons (denotes_bareLetters (by decide)) (.cons (denotes_shellWord _)
      (.cons (denotes_shellWord _) (.cons (denotes_place _ _ _) .nil)))
  have hfirst : (bareLetters "rsync").assignment? = none := by decide
  rw [command?, toList_copyCommand preset, wordsFrom_joinWith_append hoptions,
    wordsFrom_joinWith_append hexcludes, wordsFrom_joinWith hplaces, Option.map_some,
    List.nil_append, copyOptions, List.map_cons, List.cons_append, List.cons_append,
    ofWords_cons_of_none hfirst]
  simp [Function.comp_def, String.append_assoc]

/-! ### Hooks -/

/-- **The words of the command of a hook**: an assignment, and a script for `sh`. -/
theorem command?_scriptCommand (script : String) (context : Json) :
    command? (scriptCommand script context)
      = some ⟨[("MIGRATION_CONTEXT", context.compact)], ["sh", "-c", script]⟩ := by
  have htext : (scriptCommand script context).toList
      = joinWith [' '] (["MIGRATION_CONTEXT=" ++ shellWord context.compact, "sh", "-c",
        shellWord script].map String.toList) := by
    change ("MIGRATION_CONTEXT" ++ "=" ++ shellWord context.compact ++ " sh -c "
      ++ shellWord script).toList = _
    simp [joinWith]
  have hvariable : Denotes "MIGRATION_CONTEXT=".toList (bareLetters "MIGRATION_CONTEXT=") :=
    denotes_bareLetters (by decide)
  have hassign : Denotes ("MIGRATION_CONTEXT=" ++ shellWord context.compact).toList
      (bareLetters "MIGRATION_CONTEXT=" ++ lettersOf context.compact) := by
    rw [String.toList_append]
    exact hvariable.append (denotes_shellWord _)
  have hwords : List.Forall₂ Denotes
      (["MIGRATION_CONTEXT=" ++ shellWord context.compact, "sh", "-c",
        shellWord script].map String.toList)
      [bareLetters "MIGRATION_CONTEXT=" ++ lettersOf context.compact, bareLetters "sh",
        bareLetters "-c", lettersOf script] :=
    .cons hassign (.cons (denotes_bareLetters (by decide)) (.cons (denotes_bareLetters (by decide))
      (.cons (denotes_shellWord script) .nil)))
  have hassignment : (bareLetters "MIGRATION_CONTEXT=" ++ lettersOf context.compact).assignment?
      = some ("MIGRATION_CONTEXT", context.compact) := by
    have h := @assignment?_append 'M' "IGRATION_CONTEXT".toList (by decide) (by decide)
      (lettersOf context.compact)
    rwa [text_lettersOf] at h
  have hsh : (bareLetters "sh").assignment? = none := by decide
  rw [command?, htext, wordsFrom_joinWith hwords, Option.map_some, List.nil_append,
    ofWords_cons_of_some hassignment, ofWords_cons_of_none hsh]
  simp

/-- **What a shell makes of the rendered commands.**  The command that copies a filesystem, from
the preset template, has exactly these words: the options, one `--exclude` for each pattern in
order, the command that reaches the target as one word, the mountpoint of the source and the place
on the target, both as directories.  The command of a hook assigns its document to a variable and
gives its script to `sh` as one word. -/
theorem rendered_commands_read_back
    (preset : source.target.blueprint.commands.sync = ({} : CommandTemplates).sync)
    (target : RemoteHost) (entry : MountEntry) (script : String) (context : Json) :
    command? (copyCommand source target entry) = some ⟨[],
        ["rsync", "-aAXHx", "--numeric-ids", "--delete"]
          ++ source.target.blueprint.commands.syncExcludes.map ("--exclude=" ++ ·)
          ++ ["-e", sshTransport target, asDirectory entry.sourceMountpoint,
            target.username ++ "@" ++ target.address ++ ":" ++ asDirectory entry.targetMountpoint]⟩
      ∧ (∀ path, (asDirectory path).toList.getLast? = some '/' ∧ (asDirectory path = path
          ∨ path.toList.getLast? ≠ some '/' ∧ asDirectory path = path ++ "/"))
      ∧ command? (scriptCommand script context)
        = some ⟨[("MIGRATION_CONTEXT", context.compact)], ["sh", "-c", script]⟩ :=
  ⟨command?_copyCommand preset target entry, asDirectory_spec,
    command?_scriptCommand script context⟩

/-- A source with blanks, quotes and the name of a slot in its patterns. -/
def quotedSource : Source :=
  { (default : Source) with
    target := { (default : Target) with
      blueprint := { (default : Blueprint) with
        commands := { syncExcludes := ["/it's $HOME/*", "{source_path}", ""] } } } }

/-- A target with a blank in the name of its user and the name of a slot for its address. -/
def quotedTarget : RemoteHost :=
  { (default : RemoteHost) with username := "a b", address := "{target_path}", port := 22 }

/-- A filesystem with quotes and the name of a slot in its paths. -/
def quotedEntry : MountEntry :=
  { (default : MountEntry) with
    sourceMountpoint := "/srv/'x'; y", targetMountpoint := "/mnt/{excludes}/" }

/-- Values next to one another are taken neither for slots nor for several words. -/
theorem quotedSource_commands_read_back :
    quotedSource.target.blueprint.commands.sync = ({} : CommandTemplates).sync
      ∧ command? (copyCommand quotedSource quotedTarget quotedEntry)
        = some ⟨[], ["rsync", "-aAXHx", "--numeric-ids", "--delete", "--exclude=/it's $HOME/*",
            "--exclude={source_path}", "--exclude=", "-e",
            "ssh -p 22 -o StrictHostKeyChecking=no -o UserKnownHostsFile=/dev/null",
            "/srv/'x'; y/", "a b@{target_path}:/mnt/{excludes}/"]⟩
      ∧ command? (scriptCommand "echo \"$MIGRATION_CONTEXT\"; it's" (.string "a'b"))
        = some ⟨[("MIGRATION_CONTEXT", "\"a'b\"")],
            ["sh", "-c", "echo \"$MIGRATION_CONTEXT\"; it's"]⟩ := by
  have preset : quotedSource.target.blueprint.commands.sync = ({} : CommandTemplates).sync := rfl
  obtain ⟨copy, -, hook⟩ := rendered_commands_read_back preset quotedTarget quotedEntry
    "echo \"$MIGRATION_CONTEXT\"; it's" (.string "a'b")
  exact ⟨preset, copy, hook⟩

end ServerMigration
