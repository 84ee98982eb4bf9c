import Mathlib.Data.List.Basic
import OpPolicy.Proofs.Text.Numeral
import OpPolicy.Text.Quoted

set_option autoImplicit false

/-!
How a shell splits a command into words. Unquoted blanks end a word, quotes of either kind join what
they hold to the word around them, and a character that would be an operator, an expansion, a
pattern, a comment or an escape where it stands makes the reading fail, so that a command with words
has nothing of the kind (`Words.words?`).

A text spells a word if it is read as that word and no other (`Words.Spells`). Quoting spells every
word (`Words.spells_quote`), and texts that spell words, with blanks between them, are read as these
words (`Words.words?_of_spelled`).
-/

namespace OpPolicy.Words

def blanks : List Char := [' ', '\t']

/-- What means something by itself unless it is quoted. -/
def actives : List Char :=
  ['|', '&', ';', '<', '>', '(', ')', '$', '\x60', '\\', '*', '?', '[', ']', '#', '~', '=', '%',
    '!', '\x7b', '\x7d', '^', '\n']

/-- What means something by itself between double quotes too. -/
def expansions : List Char := ['$', '\x60', '\\']

/-- Where a shell stands in a command: the words that are complete, and the piece that it reads. -/
inductive State where
  | between (done : List (List Char))
  | bare (done : List (List Char)) (word : List Char)
  | single (done : List (List Char)) (word : List Char)
  | double (done : List (List Char)) (word : List Char)

/-- Go on with a word outside quotes. -/
def extend (done : List (List Char)) (word : List Char) (c : Char) : Option State :=
  if c = '\x27' then some (.single done word)
  else if c = '\x22' then some (.double done word)
  else if c ∈ actives then none
  else some (.bare done (word ++ [c]))

def step : State → Char → Option State
  | .between done, c => if c ∈ blanks then some (.between done) else extend done [] c
  | .bare done word, c =>
    if c ∈ blanks then some (.between (done ++ [word])) else extend done word c
  | .single done word, c =>
    if c = '\x27' then some (.bare done word) else some (.single done (word ++ [c]))
  | .double done word, c =>
    if c = '\x22' then some (.bare done word)
    else if c ∈ expansions then none
    else some (.double done (word ++ [c]))

def read (s : State) (text : List Char) : Option State := text.foldlM step s

/-- The words at the end of a command. A quote that is still open never ends. -/
def finish : State → Option (List (List Char))
  | .between done => some done
  | .bare done word => some (done ++ [word])
  | .single .. | .double .. => none

/-- The words of a command, if nothing in it is more than a part of a word. -/
def words? (cmd : String) : Option (List String) :=
  ((read (.between []) cmd.toList).bind finish).map (·.map String.ofList)

@[simp] theorem read_nil (s : State) : read s [] = some s := rfl

@[simp] theorem read_cons (s : State) (c : Char) (text : List Char) :
    read s (c :: text) = (step s c).bind (read · text) := rfl

theorem read_append (s : State) (text rest : List Char) :
    read s (text ++ rest) = (read s text).bind (read · rest) := List.foldlM_append

/-- A text that is read as one word, wherever it stands between others. -/
def Spells (text word : String) : Prop :=
  ∀ done, read (.between done) text.toList = some (.bare done word.toList)

theorem read_intercalate {texts words : List String} (h : List.Forall₂ Spells texts words)
    (done : List (List Char)) :
    (read (.between done) ([' '].intercalate (texts.map String.toList))).bind finish =
      some (done ++ words.map String.toList) := by
  induction h generalizing done with
  | nil => simp [finish]
  | @cons text word texts words spells rest ih =>
    cases rest with
    | nil => simp [spells done, finish]
    | cons spells' rest =>
      rw [List.map_cons, List.map_cons, List.intercalate_cons_cons, List.append_assoc, read_append,
        spells done]
      have blank :
          step (.bare done word.toList) ' ' = some (.between (done ++ [word.toList])) := rfl
      simp only [Option.bind_some, List.singleton_append, read_cons, blank]
      rw [← List.map_cons, ih]
      simp

/-- Texts that spell words are read as these words if blanks keep them apart. -/
theorem words?_of_spelled {texts words : List String} (h : List.Forall₂ Spells texts words)
    {cmd : String} (line : cmd = " ".intercalate texts) : words? cmd = some words := by
  have read := read_intercalate h []
  rw [line, words?, String.toList_intercalate]
  simp [read]

/-- Inside the single quotes of a quoted word, every character is read as itself: a quote leaves
them, stands between double quotes, and enters them again. -/
theorem read_escaped (done : List (List Char)) (word s : List Char) :
    read (.single done word) (s.flatMap fun c =>
      if c = '\x27' then ['\x27', '\x22', '\x27', '\x22', '\x27'] else [c]) =
      some (.single done (word ++ s)) := by
  induction s generalizing word with
  | nil => simp
  | cons c s ih =>
    rw [List.flatMap_cons, read_append]
    by_cases quote : c = '\x27'
    · subst quote
      have around : read (.single done word) ['\x27', '\x22', '\x27', '\x22', '\x27'] =
          some (.single done (word ++ ['\x27'])) := rfl
      rw [if_pos rfl, around, Option.bind_some, ih]
      simp
    · simp [step, quote, ih]

theorem spells_quote (s : String) : Spells (Text.quote s) s := by
  intro done
  have opened : step (.between done) '\x27' = some (.single done []) := rfl
  rw [Text.toList_quote, Text.quoteChars, List.cons_append, read_cons, opened, Option.bind_some,
    read_append, read_escaped]
  rfl

/-- A character that is always read as itself. -/
def isPlain (c : Char) : Bool := c.isAlphanum || c = ':' || c = '_' || c = '-'

theorem special_of_plain {c : Char} (h : isPlain c = true) :
    c ∉ blanks ∧ c ≠ '\x27' ∧ c ≠ '\x22' ∧ c ∉ actives := by
  have special : (blanks ++ ['\x27', '\x22'] ++ actives).all (!isPlain ·) = true := by decide
  have other : c ∉ blanks ++ ['\x27', '\x22'] ++ actives := fun mem => by
    have active := List.all_eq_true.mp special c mem
    rw [h] at active
    cases active
  simpa [not_or, and_assoc] using other

theorem extend_of_plain {c : Char} (h : isPlain c = true) (done : List (List Char))
    (word : List Char) : extend done word c = some (.bare done (word ++ [c])) := by
  obtain ⟨-, single, double, inactive⟩ := special_of_plain h
  simp [extend, single, double, inactive]

theorem read_of_plain {text : List Char} (plain : ∀ c ∈ text, isPlain c = true)
    (done : List (List Char)) (word : List Char) :
    read (.bare done word) text = some (.bare done (word ++ text)) := by
  induction text generalizing word with
  | nil => simp
  | cons c text ih =>
    obtain ⟨first, rest⟩ := List.forall_mem_cons.mp plain
    simp [step, (special_of_plain first).1, extend_of_plain first, ih rest]

def isPlainWord (text : String) : Bool := text.toList ≠ [] && text.toList.all isPlain

theorem spells_of_plain {text : String} (plain : isPlainWord text = true) : Spells text text := by
  intro done
  obtain ⟨nonempty, all⟩ : text.toList ≠ [] ∧ ∀ c ∈ text.toList, isPlain c = true := by
    simpa [isPlainWord] using plain
  obtain ⟨c, rest, eq⟩ := List.exists_cons_of_ne_nil nonempty
  rw [eq] at all ⊢
  obtain ⟨first, all⟩ := List.forall_mem_cons.mp all
  rw [read_cons, step, if_neg (special_of_plain first).1, extend_of_plain first]
  exact read_of_plain all done [c]

theorem spells_numeral (n : UInt32) : Spells (toString n) (toString n) := by
  have plain : ∀ c ∈ (toString n).toList, isPlain c = true := fun c mem => by
    have digit : c.isDigit = true := Numeral.isDigit_of_mem_toString mem
    simp [isPlain, Char.isAlphanum, digit]
  refine spells_of_plain ?_
  simp only [isPlainWord, Bool.and_eq_true, decide_eq_true_eq, List.all_eq_true]
  exact ⟨Numeral.toList_toString_ne_nil n, plain⟩

end OpPolicy.Words
