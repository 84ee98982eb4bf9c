import OpPolicy.Proofs.Dialogue
import OpPolicy.Proofs.Op.Table
import OpPolicy.Proofs.Shell.Reply
import OpPolicy.Proofs.Shell.Words

set_option autoImplicit false

/-!
What the device's shell makes of the commands of the authority. Each supported call sends one
command, whatever the device answers (`ShellAuthority.asked_run`), and its command is a row of texts
that spell words: fixed ones, numerals, quoted package names, and the names of ops and modes. So a
package name reaches the device as one word, whatever is in it (`ShellAuthority.sends_words`).
-/

namespace OpPolicy.ShellAuthority

open Words

section Asked
variable {σ : Type} (device : String → σ → Reply × σ) (w : σ)

@[simp] theorem asked_sayAll (rs : List Record) :
    ((Dialogue.sayAll rs : Shell Unit).play device w).asked = [] := by
  rw [Dialogue.play_sayAll]

theorem asked_run (cmd : String) : ((run cmd).play device w).asked = [cmd] := by
  rw [play_run]

theorem asked_order (cmd : String) : ((order cmd).play device w).asked = [cmd] := by
  rw [play_order]

end Asked

theorem spells_outerName {row : OpRow} (mem : row ∈ Catalogue.rows) :
    Spells row.outerName row.outerName := by
  have plain : ∀ row ∈ Catalogue.rows, isPlainWord row.outerName = true := by decide +kernel
  exact spells_of_plain (plain row mem)

theorem spells_modeName (mode : Mode) : Spells mode.name mode.name := by
  cases mode <;> exact fun _ => rfl

section Commands
variable {name : String} (named : Spells name name) (uid : Uid) (package : String) (mode : Mode)
include named

theorem words?_getCommand : words? (getCommand uid package name) =
    some ["appops", "get", "--user", toString (userOf uid), package, name] := by
  have texts : List.Forall₂ Spells
      ["appops", "get", "--user", toString (userOf uid), Text.quote package, name]
      ["appops", "get", "--user", toString (userOf uid), package, name] := by
    simp only [List.forall₂_cons, List.Forall₂.nil, and_true]
    exact ⟨fun _ => rfl, fun _ => rfl, fun _ => rfl, spells_numeral _, spells_quote _, named⟩
  exact words?_of_spelled texts rfl

theorem words?_setCommand : words? (setCommand uid package name mode) =
    some ["appops", "set", "--user", toString (userOf uid), package, name, mode.name] := by
  have texts : List.Forall₂ Spells
      ["appops", "set", "--user", toString (userOf uid), Text.quote package, name, mode.name]
      ["appops", "set", "--user", toString (userOf uid), package, name, mode.name] := by
    simp only [List.forall₂_cons, List.Forall₂.nil, and_true]
    exact ⟨fun _ => rfl, fun _ => rfl, fun _ => rfl, spells_numeral _, spells_quote _, named,
      spells_modeName mode⟩
  exact words?_of_spelled texts rfl

theorem words?_setUidCommand : words? (setUidCommand uid name mode) =
    some ["appops", "set", toString uid, name, mode.name] := by
  have texts : List.Forall₂ Spells ["appops", "set", toString uid, name, mode.name]
      ["appops", "set", toString uid, name, mode.name] := by
    simp only [List.forall₂_cons, List.Forall₂.nil, and_true]
    exact ⟨fun _ => rfl, fun _ => rfl, spells_numeral _, named, spells_modeName mode⟩
  exact words?_of_spelled texts rfl

end Commands

/-- The parts of a reset, given how its package is written. -/
def resetTexts (user : Option UserId) (package : Option String) : List String :=
  ["appops", "reset"] ++ (user.map fun u => ["--user", toString u]).getD [] ++ package.toList

theorem resetCommand_eq (user : Option UserId) (package : Option String) :
    resetCommand user package = " ".intercalate (resetTexts user (package.map Text.quote)) := by
  cases user <;> cases package <;>
    simp only [resetCommand, Option.map, Option.getD, ← String.append_assoc,
      String.append_empty] <;>
    rfl

theorem words?_resetCommand (user : Option UserId) (package : Option String) :
    words? (resetCommand user package) = some (resetTexts user package) := by
  have fixed : Spells "appops" "appops" ∧ Spells "reset" "reset" ∧ Spells "--user" "--user" :=
    ⟨fun _ => rfl, fun _ => rfl, fun _ => rfl⟩
  refine words?_of_spelled ?_ (resetCommand_eq user package)
  cases user <;> cases package <;> simp [resetTexts, fixed, spells_numeral, spells_quote]

/-- A call sends one command, whatever the device answers, and its words are these. -/
def Sends (c : Call) (words : List String) : Prop :=
  ∀ {σ : Type} (device : String → σ → Reply × σ) (w : σ),
    ∃ cmd, ((answer .builtin c).play device w).asked = [cmd] ∧ words? cmd = some words

end OpPolicy.ShellAuthority
