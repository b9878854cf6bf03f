import DriverTelemetry.Proofs.Provenance

/-!
# The calls that hooks are told of

One call on a handle may be told to the hooks of every observer around it, or of some, or of none.
The calls told are listed in the order in which they come to their ends, each with its account, and
what calls leave behind is read off the lists. Every call and every run has such a list.
-/
namespace DriverTelemetry

variable {σ : Type}

/-- The calls of which hooks are told in the course of a call on a handle, in the order in which
they come to their ends: those inside before the one around them. -/
inductive Target.Tells :
    Target σ → BaseCall → World σ → List (Wrapper σ × Account σ) → Prop where
  | base {t : Target σ} {id : BaseId} {call : BaseCall} {w : World σ}
      (handle : t.baseId? = some id) : Tells t call w []
  | untold {x : Wrapper σ} {call : BaseCall} {w : World σ} (h : x.Unreported call) :
      Tells x.target call w []
  | told {x : Wrapper σ} {call : BaseCall} {w : World σ} {a : Account σ}
      {inside : List (Wrapper σ × Account σ)} (account : a.Of x call w)
      (rest : Tells x.inner (a.made.under a.exit) a.asked inside) :
      Tells x.target call w (inside ++ [(x, a)])

theorem Target.exists_told (t : Target σ) (call : BaseCall) (w : World σ) :
    ∃ as, t.Tells call w as := by
  induction t using Target.induct generalizing call w with
  | base t id handle => exact ⟨[], .base handle⟩
  | observed x inner =>
    by_cases silent : x.Unreported call
    · exact ⟨[], .untold silent⟩
    · obtain ⟨made, treated⟩ := Wrapper.exists_reported silent
      obtain ⟨a, account, -⟩ := exists_account treated w
      obtain ⟨inside, rest⟩ := inner (a.made.under a.exit) a.asked
      exact ⟨inside ++ [(x, a)], .told account rest⟩

theorem Target.Tells.exists_account {t : Target σ} {call : BaseCall} {w : World σ}
    {as : List (Wrapper σ × Account σ)} (tells : t.Tells call w as) {x : Wrapper σ}
    {a : Account σ} (member : (x, a) ∈ as) : ∃ call w, a.Of x call w := by
  induction tells with
  | base handle => cases member
  | untold silent => cases member
  | @told y call w b inside account rest ih =>
    rcases List.mem_append.mp member with earlier | last
    · exact ih earlier
    · obtain ⟨rfl, rfl⟩ := Prod.mk.inj (List.mem_singleton.mp last)
      exact ⟨call, w, account⟩

namespace Pool

/-- The calls of which hooks are told in a run, in the order in which they come to their ends. A
call on an observed handle enters its hooks with the caller's context, the ambient one or the one
that the calls before have left to the handle. -/
inductive Tells : Pool σ → List (Turn σ) → List (Wrapper σ × Account σ) → Prop where
  | nil (p : Pool σ) : Tells p [] []
  | quiet {p : Pool σ} {turn : Turn σ} {turns : List (Turn σ)} {as : List (Wrapper σ × Account σ)}
      (uncalled : ∀ n call, turn = .call n call → p.targets[n]? = none)
      (rest : Tells (p.step turn) turns as) : Tells p (turn :: turns) as
  | call {p : Pool σ} {n : Nat} {t : Target σ} {call : BaseCall} {turns : List (Turn σ)}
      {told as : List (Wrapper σ × Account σ)} (held : p.targets[n]? = some t)
      (tells : t.Tells call p.world told)
      (enters : ∀ (x : Wrapper σ) (a : Account σ), t = x.target → a.Of x call p.world →
        p.Enters n a.entry call.origin)
      (rest : Tells (p.step (.call n call)) turns as) : Tells p (.call n call :: turns) (told ++ as)

theorem Tells.exists_account {p : Pool σ} {turns : List (Turn σ)}
    {as : List (Wrapper σ × Account σ)} (tells : p.Tells turns as) {x : Wrapper σ}
    {a : Account σ} (member : (x, a) ∈ as) : ∃ call w, a.Of x call w := by
  induction tells with
  | nil p => cases member
  | quiet uncalled rest ih => exact ih member
  | call held tells enters rest ih =>
    rcases List.mem_append.mp member with first | later
    · exact tells.exists_account first
    · exact ih later

theorem Sound.exists_turn {p : Pool σ} (sound : p.Sound) (turn : Turn σ) :
    ∃ told, ∀ turns as, Tells (p.step turn) turns as → Tells p (turn :: turns) (told ++ as) := by
  cases turn with
  | elsewhere change => exact ⟨[], fun turns as rest => .quiet nofun rest⟩
  | connected c => exact ⟨[], fun turns as rest => .quiet nofun rest⟩
  | call n call =>
    cases held : p.targets[n]? with
    | none =>
      refine ⟨[], fun turns as rest => .quiet ?_ rest⟩
      rintro _ _ ⟨⟩
      exact held
    | some t =>
      obtain ⟨told, tells⟩ := t.exists_told call p.world
      refine ⟨told, fun turns as rest => .call held tells ?_ rest⟩
      rintro x a rfl account
      exact sound.enters held account

theorem Sound.exists_told {p : Pool σ} (sound : p.Sound) (turns : List (Turn σ)) :
    ∃ as, p.Tells turns as := by
  induction turns generalizing p with
  | nil => exact ⟨[], .nil p⟩
  | cons turn turns ih =>
    obtain ⟨told, extend⟩ := sound.exists_turn turn
    obtain ⟨as, rest⟩ := ih (sound.step turn)
    exact ⟨told ++ as, extend turns as rest⟩

theorem step_uncalled {p : Pool σ} {turn : Turn σ}
    (uncalled : ∀ n call, turn = .call n call → p.targets[n]? = none) :
    (p.step turn).world = p.world ∨
      ∃ change, turn = .elsewhere change ∧ (p.step turn).world = change p.world := by
  cases turn with
  | elsewhere change => exact .inr ⟨change, rfl, rfl⟩
  | connected c => exact .inl rfl
  | call n call =>
    have still : p.step (.call n call) = p := by simp [Pool.step, uncalled n call rfl]
    exact .inl (congrArg Pool.world still)

theorem step_call {p : Pool σ} {n : Nat} {t : Target σ} (held : p.targets[n]? = some t)
    (call : BaseCall) : p.step (.call n call) = p.perform n t call := by
  simp [Pool.step, held]

theorem mem_perform {p : Pool σ} {n : Nat} {t t' : Target σ} {call : BaseCall}
    (member : t' ∈ (p.perform n t call).targets) :
    t' ∈ p.targets ∨ t' = (t.perform call p.world).1.2 ∨
      (t.perform call p.world).1.1.target? = some t' := by
  have parts : (p.perform n t call).targets = p.targets.set n (t.perform call p.world).1.2 ++
      (t.perform call p.world).1.1.target?.toList := rfl
  rw [parts, List.mem_append, Option.mem_toList] at member
  rcases member with old | created
  · exact (List.mem_or_eq_of_mem_set old).imp_right .inl
  · exact .inr (.inr created)

theorem step_keeps {P : Target σ → Prop}
    (kept : ∀ t call (w : World σ), P t → P (t.perform call w).1.2) {p : Pool σ} (turn : Turn σ)
    {j : Nat} {t : Target σ} (held : p.targets[j]? = some t) (h : P t) :
    ∃ t', (p.step turn).targets[j]? = some t' ∧ P t' := by
  have inside := (List.getElem?_eq_some_iff.mp held).1
  cases turn with
  | elsewhere change => exact ⟨t, held, h⟩
  | connected c => exact ⟨t, (List.getElem?_append_left inside).trans held, h⟩
  | call i call =>
    cases called : p.targets[i]? with
    | none => exact ⟨t, by simp [Pool.step, called, held], h⟩
    | some s =>
      rw [step_call called]
      let left := (s.perform call p.world).1.2
      have there (ts : List (Target σ)) :
          (p.targets.set i left ++ ts)[j]? = (p.targets.set i left)[j]? :=
        List.getElem?_append_left (by simpa using inside)
      by_cases same : i = j
      · subst same
        obtain rfl := Option.some.inj (called.symm.trans held)
        exact ⟨_, (there _).trans (List.getElem?_set_self inside), kept s call p.world h⟩
      · exact ⟨t, (there _).trans ((List.getElem?_set_ne same).trans held), h⟩

theorem run_keeps {P : Target σ → Prop}
    (kept : ∀ t call (w : World σ), P t → P (t.perform call w).1.2) {p : Pool σ}
    (turns : List (Turn σ)) {j : Nat} {t : Target σ} (held : p.targets[j]? = some t) (h : P t) :
    ∃ t', (p.run turns).targets[j]? = some t' ∧ P t' := by
  induction turns generalizing p t with
  | nil => exact ⟨t, held, h⟩
  | cons turn turns ih =>
    obtain ⟨s, held, h⟩ := step_keeps kept turn held h
    exact ih held h

end Pool
end DriverTelemetry
