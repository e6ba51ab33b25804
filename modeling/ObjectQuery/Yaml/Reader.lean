import ObjectQuery.Yaml.Basic
import ObjectQuery.Yaml.Token

/-!
# Reading YAML

A block collection is held together by the column of its items or keys. The value of
a key may start on a later line if it is indented further, and a sequence also in the
column of the key itself; where nothing follows, the value is empty. Flow collections
stand between brackets and are free in their layout.
-/

namespace ObjectQuery
namespace Yaml

/-- The scalar of a token. -/
def Token.scalar? : Token → Option Yaml
  | .plain text => some (.plain text)
  | .quoted text => some (.quoted text)
  | _ => none

/-- The scalar that tokens start with, if a colon on its line makes it a key. -/
def key? : List Placed → Option (String × Placed × List Placed)
  | first :: second :: rest =>
      match first.token.scalar?.bind text? with
      | some name =>
          if second.token = .colon ∧ second.line = first.line then
            some (name, second, rest)
          else
            none
      | none => none
  | _ => none

/-- Tokens read so far give a document, and the tokens behind it are left. -/
abbrev Reading := Option (Yaml × List Placed)

mutual

/-- The value between brackets that tokens start with. -/
def flow : Nat → List Placed → Reading
  | 0, _ => none
  | _, [] => none
  | steps + 1, first :: rest =>
      match first.token with
      | .plain text => some (.plain text, rest)
      | .quoted text => some (.quoted text, rest)
      | .openSequence => flowItems steps [] rest
      | .openMapping => flowEntries steps [] rest
      | _ => none

/-- The items of a flow sequence up to its bracket; `done` holds the earlier ones in reverse. -/
def flowItems : Nat → List Yaml → List Placed → Reading
  | 0, _, _ => none
  | _, _, [] => none
  | steps + 1, done, first :: rest =>
      if first.token = .closeSequence then
        some (.sequence done.reverse, rest)
      else
        match flow steps (first :: rest) with
        | none => none
        | some (item, after) =>
            match after with
            | [] => none
            | next :: behind =>
                match next.token with
                | .comma => flowItems steps (item :: done) behind
                | .closeSequence => some (.sequence (item :: done).reverse, behind)
                | _ => none

/-- The entries of a flow mapping up to its brace; `done` holds the earlier ones in reverse. -/
def flowEntries : Nat → List (String × Yaml) → List Placed → Reading
  | 0, _, _ => none
  | _, _, [] => none
  | steps + 1, done, first :: rest =>
      if first.token = .closeMapping then
        some (.mapping done.reverse, rest)
      else
        match first.token.scalar?.bind text? with
        | none => none
        | some name =>
            match flowValue steps rest with
            | none => none
            | some (value, after) =>
                match after with
                | [] => none
                | next :: behind =>
                    match next.token with
                    | .comma => flowEntries steps ((name, value) :: done) behind
                    | .closeMapping => some (.mapping ((name, value) :: done).reverse, behind)
                    | _ => none

/-- The value of a flow mapping's key: what stands behind a colon, or nothing. -/
def flowValue : Nat → List Placed → Reading
  | 0, _ => none
  | _, [] => none
  | steps + 1, first :: rest =>
      if first.token = .colon then
        match rest with
        | [] => none
        | next :: _ =>
            if next.token = .comma ∨ next.token = .closeMapping then
              some (empty, rest)
            else
              flow steps rest
      else
        some (empty, first :: rest)

end

mutual

/-- The value outside of brackets that tokens start with. -/
def block : Nat → List Placed → Reading
  | 0, _ => none
  | _, [] => none
  | steps + 1, first :: rest =>
      if first.token = .dash then
        blockItems steps first.column [] (first :: rest)
      else if (key? (first :: rest)).isSome then
        blockEntries steps first.column [] (first :: rest)
      else
        flow (2 * rest.length + 2) (first :: rest)

/-- The items of a block sequence in a column; `done` holds the earlier ones in reverse. -/
def blockItems : Nat → Nat → List Yaml → List Placed → Reading
  | 0, _, _, _ => none
  | _, _, done, [] => some (.sequence done.reverse, [])
  | steps + 1, column, done, first :: rest =>
      if first.token = .dash ∧ first.column = column then
        match blockItem steps first rest with
        | none => none
        | some (item, after) => blockItems steps column (item :: done) after
      else
        some (.sequence done.reverse, first :: rest)

/-- The item behind a dash: on its line or indented further, else empty. -/
def blockItem : Nat → Placed → List Placed → Reading
  | 0, _, _ => none
  | _, _, [] => some (empty, [])
  | steps + 1, dash, next :: rest =>
      if next.line = dash.line ∨ dash.column < next.column then
        block steps (next :: rest)
      else
        some (empty, next :: rest)

/-- The entries of a block mapping in a column; `done` holds the earlier ones in reverse. -/
def blockEntries : Nat → Nat → List (String × Yaml) → List Placed → Reading
  | 0, _, _, _ => none
  | _, _, done, [] => some (.mapping done.reverse, [])
  | steps + 1, column, done, first :: rest =>
      if first.column = column then
        match key? (first :: rest) with
        | none => some (.mapping done.reverse, first :: rest)
        | some (name, colon, after) =>
            match blockValue steps column colon after with
            | none => none
            | some (value, behind) => blockEntries steps column ((name, value) :: done) behind
      else
        some (.mapping done.reverse, first :: rest)

/-- The value behind a key in a column. -/
def blockValue : Nat → Nat → Placed → List Placed → Reading
  | 0, _, _, _ => none
  | _, _, _, [] => some (empty, [])
  | steps + 1, column, colon, next :: rest =>
      if next.line = colon.line then
        if next.token = .dash ∨ (key? (next :: rest)).isSome then
          none
        else
          block steps (next :: rest)
      else if column < next.column ∨ (column = next.column ∧ next.token = .dash) then
        block steps (next :: rest)
      else
        some (empty, next :: rest)

end

/-- The document that a text writes; a text without tokens is an empty value. -/
def parse? (text : String) : Option Yaml :=
  match tokens? text with
  | none => none
  | some [] => some empty
  | some found =>
      match block (4 * found.length + 4) found with
      | some (document, []) => some document
      | _ => none

end Yaml
end ObjectQuery
