import OpPolicy.Log

set_option autoImplicit false

/-!
Programs that talk to their surroundings. A dialogue either ends with a value, notes a log record,
or asks a question and goes on with the answer, so it is data: it can be played against any
answers, and its questions can be handed to another dialogue that answers them.
-/

namespace OpPolicy

inductive Dialogue (Q : Type) (A : Q → Type) (α : Type) where
  | done (a : α)
  | note (r : Record) (next : Dialogue Q A α)
  | ask (q : Q) (next : A q → Dialogue Q A α)

/-- A finished play: the value, what became of the surroundings, the records noted and the
questions asked, in order. -/
structure Play (Q : Type) (α σ : Type) where
  value : α
  world : σ
  log : List Record
  asked : List Q

namespace Dialogue
variable {Q : Type} {A : Q → Type} {α β γ : Type}

def bind : Dialogue Q A α → (α → Dialogue Q A β) → Dialogue Q A β
  | done a, f => f a
  | note r next, f => note r (next.bind f)
  | ask q next, f => ask q fun a => (next a).bind f

instance : Monad (Dialogue Q A) where
  pure := done
  bind := bind

@[simp] theorem bind_eq (m : Dialogue Q A α) (f : α → Dialogue Q A β) : m >>= f = m.bind f := rfl

@[simp] theorem done_bind (a : α) (f : α → Dialogue Q A β) : (done a).bind f = f a := rfl

@[simp] theorem note_bind (r : Record) (m : Dialogue Q A α) (f : α → Dialogue Q A β) :
    (note r m).bind f = note r (m.bind f) := rfl

@[simp] theorem ask_bind (q : Q) (m : A q → Dialogue Q A α) (f : α → Dialogue Q A β) :
    (ask q m).bind f = ask q fun a => (m a).bind f := rfl

theorem bind_assoc (m : Dialogue Q A α) (f : α → Dialogue Q A β) (g : β → Dialogue Q A γ) :
    (m.bind f).bind g = m.bind fun a => (f a).bind g := by
  induction m with
  | done => rfl
  | note r next ih => simp [ih]
  | ask q next ih => simp [ih]

/-- Ask and end with the answer. -/
def put (q : Q) : Dialogue Q A (A q) := ask q done

def say (level : Level) (component : Component) (text : String) : Dialogue Q A Unit :=
  note ⟨level, component, text⟩ (done ())

def sayAll : List Record → Dialogue Q A Unit
  | [] => done ()
  | r :: rs => note r (sayAll rs)

/-- Go on after a success. -/
def andThen {ε : Type} (m : Dialogue Q A (Except ε α)) (f : α → Dialogue Q A (Except ε β)) :
    Dialogue Q A (Except ε β) :=
  m.bind fun
    | .error e => done (.error e)
    | .ok a => f a

/-- Let another dialogue answer each question. -/
def through {Q' : Type} {A' : Q' → Type} (handle : (q : Q) → Dialogue Q' A' (A q)) :
    Dialogue Q A α → Dialogue Q' A' α
  | done a => done a
  | note r next => note r (next.through handle)
  | ask q next => (handle q).bind fun a => (next a).through handle

@[simp] theorem through_bind {Q' : Type} {A' : Q' → Type}
    (handle : (q : Q) → Dialogue Q' A' (A q)) (m : Dialogue Q A α) (f : α → Dialogue Q A β) :
    (m.bind f).through handle = (m.through handle).bind fun a => (f a).through handle := by
  induction m with
  | done => rfl
  | note r next ih => simp [through, ih]
  | ask q next ih => simp [through, ih, bind_assoc]

/-- Let another dialogue answer each question, with a state that goes from answer to answer. -/
def serve {Q' : Type} {A' : Q' → Type} {σ : Type}
    (handle : (q : Q) → σ → Dialogue Q' A' (A q × σ)) :
    Dialogue Q A α → σ → Dialogue Q' A' (α × σ)
  | done a, w => done (a, w)
  | note r next, w => note r (next.serve handle w)
  | ask q next, w => (handle q w).bind fun r => (next r.1).serve handle r.2

theorem serve_bind {Q' : Type} {A' : Q' → Type} {σ : Type}
    (handle : (q : Q) → σ → Dialogue Q' A' (A q × σ)) (m : Dialogue Q A α)
    (f : α → Dialogue Q A β) (w : σ) :
    (m.bind f).serve handle w =
      (m.serve handle w).bind fun r => (f r.1).serve handle r.2 := by
  induction m generalizing w with
  | done => rfl
  | note r next ih => simp [serve, ih]
  | ask q next ih => simp [serve, ih, bind_assoc]

/-- Do something with each record instead of noting it. -/
def noting (sink : Record → Dialogue Q A Unit) : Dialogue Q A α → Dialogue Q A α
  | done a => done a
  | note r next => (sink r).bind fun _ => next.noting sink
  | ask q next => ask q fun a => (next a).noting sink

/-- Play against surroundings that answer every question and may change by it. -/
def play {σ : Type} (answer : (q : Q) → σ → A q × σ) : Dialogue Q A α → σ → Play Q α σ
  | done a, w => ⟨a, w, [], []⟩
  | note r next, w =>
    let p := next.play answer w
    { p with log := r :: p.log }
  | ask q next, w =>
    let p := (next (answer q w).1).play answer (answer q w).2
    { p with asked := q :: p.asked }

theorem play_bind {σ : Type} (answer : (q : Q) → σ → A q × σ) (m : Dialogue Q A α)
    (f : α → Dialogue Q A β) (w : σ) :
    (m.bind f).play answer w =
      let p := m.play answer w
      let r := (f p.value).play answer p.world
      ⟨r.value, r.world, p.log ++ r.log, p.asked ++ r.asked⟩ := by
  induction m generalizing w with
  | done => rfl
  | note r next ih => simp [play, ih]
  | ask q next ih => simp [play, ih]

end Dialogue

end OpPolicy
