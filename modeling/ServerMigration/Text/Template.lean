import ServerMigration.Text.Quoted

/-!
# Command templates

A template is text with placeholders such as `{device}`.  Rendering replaces every placeholder
that has a value, in one pass from left to right, and never looks at a value again; all other
braces stay as they are.

## Main definitions

* `Template` : the text and its values, the earliest value of a key first.
* `Template.raw`, `Template.quoted` : add a value as it stands, or as a shell word.
* `Template.render` : the text with its placeholders replaced.
-/

namespace ServerMigration.Text

/-- A command template with the values of its placeholders. -/
structure Template where
  /-- The text with its placeholders. -/
  text : String
  /-- The values by key; of two values for one key the earlier counts. -/
  values : List (String × String) := []
  deriving Repr, DecidableEq, Inhabited

namespace Template

/-- Adds a value that is inserted as it stands. -/
def raw (template : Template) (key value : String) : Template :=
  { template with values := template.values ++ [(key, value)] }

/-- Adds a value that is inserted as one shell word. -/
def quoted (template : Template) (key value : String) : Template :=
  template.raw key (shellWord value)

/-- The key of a placeholder whose opening brace has just been read: the text up to the next
closing brace. -/
def placeholderKey (text : List Char) : Option (List Char) :=
  match splitOnce '}' text with
  | (key, some _) => some key
  | (_, none) => none

/-- The key that follows an opening brace, with its value, if it has one. -/
def placeholder (values : List (String × String)) (text : List Char) :
    Option (List Char × List Char) := do
  let key ← placeholderKey text
  let value ← values.lookup (String.ofList key)
  return (key, value.toList)

/-- `renderFrom values skip` drops the `skip` characters that a placeholder covers and then goes on
rendering. -/
def renderFrom (values : List (String × String)) : (skip : Nat) → (text : List Char) → List Char
  | _, [] => []
  | skip + 1, _ :: text => renderFrom values skip text
  | 0, c :: text =>
    if c = '{' then
      match placeholder values text with
      | some (key, value) => value ++ renderFrom values (key.length + 1) text
      | none => c :: renderFrom values 0 text
    else c :: renderFrom values 0 text

/-- The text with every placeholder that has a value replaced by it. -/
def render (template : Template) : String :=
  .ofList (renderFrom template.values 0 template.text.toList)

end Template

/-- Renders a text with every value inserted as a shell word. -/
def renderQuoted (text : String) (values : List (String × String)) : String :=
  (values.foldl (fun (t : Template) (key, value) => t.quoted key value) (.mk text [])).render

end ServerMigration.Text
