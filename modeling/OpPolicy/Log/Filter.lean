import OpPolicy.Log
import OpPolicy.Pattern.Reader

set_option autoImplicit false

/-!
Log filters: which records are kept. A rule speaks of the components whose path starts with its
name and says up to which level they are heard; of the rules that fit, the one with the longest name
decides. A filter is written as rules between commas. A pattern after a slash has to occur in the
text of every record that is kept.
-/

namespace OpPolicy

/-- The records of the components whose path starts with `name`, up to a rank. -/
structure LogRule where
  name : List Char
  rank : Nat
  deriving DecidableEq, Repr

structure LogFilter where
  rules : List LogRule
  pattern : Pattern := .empty
  deriving DecidableEq, Repr

namespace LogRule

def fits (rule : LogRule) (c : Component) : Bool := rule.name.isPrefixOf c.path.toList

/-- The rank that a word stands for, in letters of either case. -/
def rank? (word : List Char) : Option Nat :=
  match String.ofList (word.map Char.toLower) with
  | "off" => some 0
  | "error" => some Level.error.rank
  | "warn" => some Level.warn.rank
  | "info" => some Level.info.rank
  | "debug" => some Level.debug.rank
  | "trace" => some Level.trace.rank
  | _ => none

/-- A level for every component, a name, or a name and a level. A name alone hears all. -/
def read? (part : List Char) : Option LogRule :=
  match (part.splitOn '=').map Text.trim with
  | [word] =>
    if word.any Text.isBlank then none
    else
      match rank? word with
      | some rank => some ⟨[], rank⟩
      | none => some ⟨word, Level.trace.rank⟩
  | [name, word] =>
    if name.any Text.isBlank then none
    else if word = [] then some ⟨name, Level.trace.rank⟩
    else (rank? word).map fun rank => ⟨name, rank⟩
  | _ => none

end LogRule

namespace LogFilter

/-- The rules with the longest names first. -/
def ofRules (rules : List LogRule) (pattern : Pattern) : LogFilter where
  rules := rules.mergeSort fun a b =>
    (String.ofList b.name).utf8ByteSize ≤ (String.ofList a.name).utf8ByteSize
  pattern := pattern

def readRules? (text : List Char) : Option (List LogRule) :=
  (((text.splitOn ',').map Text.trim).filter (· ≠ [])).mapM LogRule.read?

def read? (s : String) : Option LogFilter :=
  match s.toList.splitOn '/' with
  | [rules] => (readRules? rules).map fun rules => ofRules rules .empty
  | [rules, pattern] => return ofRules (← readRules? rules) (← Pattern.read? pattern)
  | _ => none

/-- Whether a record is kept. -/
def keeps (f : LogFilter) (r : Record) : Bool :=
  match f.rules.find? (·.fits r.component) with
  | some rule => r.level.rank ≤ rule.rank && f.pattern.occursIn r.text.toList
  | none => false

end LogFilter

end OpPolicy
