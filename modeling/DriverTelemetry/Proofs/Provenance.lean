import DriverTelemetry.Driver.Pool
import DriverTelemetry.Proofs.Course
import DriverTelemetry.Proofs.Unreported
import DriverTelemetry.Session.Bench

/-!
# Where contexts come from

A statement or transaction carries what the last hook returned in the latest call on it that the
hooks were told of, or in the call that created it; nothing else touches what it carries. So the
contexts that the hooks of any call are handed can be told from the calls before it.
-/
namespace DriverTelemetry

variable {σ : Type}

theorem Wrapper.wrapper?_target (x : Wrapper σ) : x.target.wrapper? = some x := by
  cases x <;> rfl

theorem Wrapper.target_injective {x y : Wrapper σ} (h : x.target = y.target) : x = y := by
  have same := congrArg Target.wrapper? h
  rw [wrapper?_target, wrapper?_target] at same
  exact Option.some.inj same

theorem Target.eq_target {t : Target σ} {x : Wrapper σ} (h : t.wrapper? = some x) :
    t = x.target := by
  match t, h with
  | .conn (.observed _ _), rfl => rfl
  | .stmt (.observed _ _ _ _), rfl => rfl
  | .tx (.observed _ _ _), rfl => rfl

theorem Target.exists_baseId {t : Target σ} (h : t.wrapper? = none) :
    ∃ id, t.baseId? = some id := by
  match t, h with
  | .conn (.base c), _ => exact ⟨c.id, rfl⟩
  | .stmt (.base s), _ => exact ⟨s.id, rfl⟩
  | .tx (.base t), _ => exact ⟨t.id, rfl⟩

theorem Response.target?_observed {r : Response σ} {config : Configuration} {text : String}
    {ctx : Context} {t : Target σ} (h : (r.observed config text ctx).target? = some t) :
    ∃ y : Wrapper σ, t = y.target ∧ y.carried? = some ctx ∧
      ∀ text', y.text? = some text' → text' = text := by
  match r, h with
  | .stmt (.ok s), rfl => exact ⟨.stmt config text ctx s, rfl, rfl, by rintro _ ⟨⟩; rfl⟩
  | .tx (.ok t), rfl => exact ⟨.tx config ctx t, rfl, rfl, nofun⟩

namespace Wrapper

variable {x : Wrapper σ} {call : BaseCall}

theorem target?_of_silent {r : Response σ} (h : x.treatment call = .silent r) :
    r.target? = none := by
  rcases treatment_silent h with rfl | rfl | ⟨err, rfl⟩
  · rfl
  · cases call <;> rfl
  · cases call <;> rfl

theorem target?_of_passed (h : x.treatment call = .passed) (w : World σ) :
    (x.inner.perform call w).1.1.target? = none := by
  obtain rfl := treatment_passed h
  cases x <;> rfl

theorem perform_of_ne_reported (h : ∀ made, x.treatment call ≠ .reported made) (w : World σ) :
    ∃ r v, x.target.perform call w = ((r, x.target), v) ∧ r.target? = none := by
  rw [perform_eq]
  cases treated : x.treatment call with
  | silent r => exact ⟨r, w, rfl, target?_of_silent treated⟩
  | passed =>
    let inside := x.inner.perform call w
    exact ⟨inside.1.1, inside.2, rfl, target?_of_passed treated w⟩
  | reported made => exact absurd treated (h made)

theorem settled_perform (x : Wrapper σ) (ctx : Context) (call : BaseCall) (w : World σ) :
    ∃ y : Wrapper σ, x.settled ctx (x.inner.perform call w).1.2 = y.target ∧
      y.carried? = x.carried?.map (fun _ => ctx) ∧ y.text? = x.text? := by
  cases x with
  | conn config inner => exact ⟨.conn config inner, rfl, rfl, rfl⟩
  | stmt config text carried inner => exact ⟨.stmt config text ctx _, rfl, rfl, rfl⟩
  | tx config carried inner => exact ⟨.tx config ctx _, rfl, rfl, rfl⟩

end Wrapper

theorem Account.Of.told? {a : Account σ} {x : Wrapper σ} {call : BaseCall} {w : World σ}
    (h : a.Of x call w) : x.target.told? call w = some (a.made, a.exit) := by
  simp only [Target.told?, Wrapper.wrapper?_target, h.treated, ← h.entered, ← h.exit_eq]

theorem told?_of_ne_reported {x : Wrapper σ} {call : BaseCall}
    (h : ∀ made, x.treatment call ≠ .reported made) (w : World σ) :
    x.target.told? call w = none := by
  rw [Target.told?, Wrapper.wrapper?_target]
  cases treated : x.treatment call with
  | silent r => simp only [treated]
  | passed => simp only [treated]
  | reported made => exact absurd treated (h made)

namespace Firing

variable {n : Nat} {fs : List Firing} {f : Firing}

theorem exitOf_append_concerns (h : f.handle = n) : exitOf n (fs ++ [f]) = some f.exit := by
  simp [exitOf, concerns, h]

theorem exitOf_append_other (handle : f.handle ≠ n) (created : f.created ≠ some n) :
    exitOf n (fs ++ [f]) = exitOf n fs := by
  simp [exitOf, concerns, creates, handle, created, List.find?_append]

theorem textOf_append_other (created : f.created ≠ some n) :
    textOf n (fs ++ [f]) = textOf n fs := by
  simp [textOf, creates, created, List.find?_append]

theorem find?_creates_append (unused : ∀ g ∈ fs, g.created ≠ some n) (h : f.created = some n) :
    (fs ++ [f]).find? (creates n) = some f := by
  have before : fs.find? (creates n) = none := by
    simpa [List.find?_eq_none, creates] using unused
  simp [List.find?_append, before, creates, h]

theorem exitOf_append_created (unused : ∀ g ∈ fs, g.handle ≠ n ∧ g.created ≠ some n)
    (handle : f.handle ≠ n) (h : f.created = some n) : exitOf n (fs ++ [f]) = some f.exit := by
  have none : (fs ++ [f]).reverse.find? (concerns n) = none := by
    simpa [List.find?_eq_none, concerns, or_imp, forall_and, handle] using
      fun g hg => (unused g hg).1
  rw [exitOf, none, find?_creates_append (fun g hg => (unused g hg).2) h]
  rfl

theorem textOf_append_created (unused : ∀ g ∈ fs, g.created ≠ some n) (h : f.created = some n) :
    textOf n (fs ++ [f]) = some f.made.text := by
  rw [textOf, find?_creates_append unused h]
  rfl

end Firing

namespace Pool

/-- Every statement and transaction of the pool carries what the calls before have left to it. -/
structure Sound (p : Pool σ) : Prop where
  handle_lt : ∀ f ∈ p.firings, f.handle < p.targets.length
  created_lt : ∀ f ∈ p.firings, ∀ n, f.created = some n → n < p.targets.length
  carried : ∀ n (x : Wrapper σ) ctx, p.targets[n]? = some x.target → x.carried? = some ctx →
    Firing.exitOf n p.firings = some ctx
  text : ∀ n (x : Wrapper σ) text, p.targets[n]? = some x.target → x.text? = some text →
    Firing.textOf n p.firings = some text

theorem sound_fresh (w : World σ) : (fresh w).Sound := by
  refine ⟨fun f hf => ?_, fun f hf => ?_, fun n x ctx found => ?_, fun n x text found => ?_⟩
  · exact absurd hf List.not_mem_nil
  · exact absurd hf List.not_mem_nil
  · cases List.getElem?_nil.symm.trans found
  · cases List.getElem?_nil.symm.trans found

/-- A handle that is no observed statement or transaction has nothing to remember. -/
def Forgetful (t : Target σ) : Prop :=
  ∀ x : Wrapper σ, t = x.target → x.carried? = none ∧ x.text? = none

theorem forgetful_conn (c : Conn σ) : Forgetful (.conn c) := by
  intro x h
  cases x with
  | conn config inner => exact ⟨rfl, rfl⟩
  | stmt config text carried inner => cases h
  | tx config carried inner => cases h

theorem forgetful_base {t : Target σ} (h : t.baseId?.isSome = true) : Forgetful t := by
  rintro x rfl
  cases x <;> cases h

private theorem lookup_append {ts : List (Target σ)} {created : Option (Target σ)} {n : Nat}
    {t : Target σ} (found : (ts ++ created.toList)[n]? = some t) :
    (n < ts.length ∧ ts[n]? = some t) ∨ (n = ts.length ∧ created = some t) := by
  rcases Nat.lt_or_ge n ts.length with old | new
  · rw [List.getElem?_append_left old] at found
    exact .inl ⟨old, found⟩
  · rw [List.getElem?_append_right new] at found
    cases created with
    | none => cases found
    | some c =>
      obtain ⟨inside, same⟩ := List.getElem?_eq_some_iff.mp found
      have first : n - ts.length = 0 := by simpa using inside
      refine .inr ⟨by omega, ?_⟩
      simpa [first] using found

/-- After a call a number stands for the handle called, for the handle that it stood for before, or
for what the call created. -/
private theorem lookup_set_append {ts : List (Target σ)} {left : Target σ}
    {created : Option (Target σ)} {n m : Nat} {t : Target σ}
    (found : (ts.set n left ++ created.toList)[m]? = some t) :
    (m = n ∧ t = left) ∨ (m ≠ n ∧ m < ts.length ∧ ts[m]? = some t) ∨
      (m = ts.length ∧ created = some t) := by
  rcases lookup_append found with ⟨inside, old⟩ | ⟨last, new⟩
  · rw [List.length_set] at inside
    by_cases same : m = n
    · subst same
      rw [List.getElem?_set_self inside] at old
      exact .inl ⟨rfl, (Option.some.inj old).symm⟩
    · rw [List.getElem?_set_ne (Ne.symm same)] at old
      exact .inr (.inl ⟨same, inside, old⟩)
  · rw [List.length_set] at last
    exact .inr (.inr ⟨last, new⟩)

variable {p : Pool σ}

/-- Where the hooks were told of nothing, the pool at most gets a handle with nothing to
remember. -/
theorem Sound.extend (h : p.Sound) (w : World σ) {created : Option (Target σ)}
    (forgetful : ∀ t, created = some t → Forgetful t) :
    Sound ⟨w, p.targets ++ created.toList, p.firings⟩ := by
  refine ⟨fun f hf => ?_, fun f hf n hn => ?_, fun n x ctx found carried => ?_,
    fun n x text found prepared => ?_⟩
  · have old := h.handle_lt f hf
    rw [List.length_append]
    omega
  · have old := h.created_lt f hf n hn
    rw [List.length_append]
    omega
  · rcases lookup_append found with ⟨-, old⟩ | ⟨-, new⟩
    · exact h.carried n x ctx old carried
    · rw [(forgetful _ new x rfl).1] at carried
      cases carried
  · rcases lookup_append found with ⟨-, old⟩ | ⟨-, new⟩
    · exact h.text n x text old prepared
    · rw [(forgetful _ new x rfl).2] at prepared
      cases prepared

/-- Where the hooks were told of a call, its handle and what it created remember that call. -/
theorem Sound.fire (h : p.Sound) (w : World σ) {n : Nat} {x y : Wrapper σ}
    (found : p.targets[n]? = some x.target) {made : BaseCall} {exit : Context}
    {created : Option (Target σ)} (carried : y.carried? = x.carried?.map fun _ => exit)
    (text : y.text? = x.text?)
    (born : ∀ t, created = some t → ∃ z : Wrapper σ, t = z.target ∧ z.carried? = some exit ∧
      ∀ text, z.text? = some text → text = made.text) :
    Sound ⟨w, p.targets.set n y.target ++ created.toList,
      p.firings ++ [⟨n, created.map fun _ => p.targets.length, made, exit⟩]⟩ := by
  obtain ⟨inside, -⟩ := List.getElem?_eq_some_iff.mp found
  let f : Firing := ⟨n, created.map fun _ => p.targets.length, made, exit⟩
  -- No firing so far is about the handle that is new, and the new firing about no other old one.
  have unused : ∀ g ∈ p.firings, g.handle ≠ p.targets.length ∧
      g.created ≠ some p.targets.length := fun g hg =>
    ⟨Nat.ne_of_lt (h.handle_lt g hg), fun same => Nat.lt_irrefl _ (h.created_lt g hg _ same)⟩
  have foreign : ∀ m, m < p.targets.length → f.created ≠ some m := by
    rintro m before same
    obtain ⟨-, -, rfl⟩ := Option.map_eq_some_iff.mp same
    exact Nat.lt_irrefl _ before
  refine ⟨fun g hg => ?_, fun g hg m hm => ?_, fun m z ctx hz hc => ?_, fun m z text' hz ht => ?_⟩
  · rw [List.length_append, List.length_set]
    rcases List.mem_append.mp hg with old | new
    · have old := h.handle_lt g old
      omega
    · obtain rfl := List.mem_singleton.mp new
      exact Nat.lt_add_right _ inside
  · rw [List.length_append, List.length_set]
    rcases List.mem_append.mp hg with old | new
    · have old := h.created_lt g old m hm
      omega
    · obtain rfl := List.mem_singleton.mp new
      obtain ⟨t, rfl, rfl⟩ := Option.map_eq_some_iff.mp hm
      exact Nat.lt_succ_self _
  -- A handle is the one that was called, another one that was there, or the one that is new.
  · rcases lookup_set_append hz with ⟨rfl, same⟩ | ⟨other, before, old⟩ | ⟨rfl, new⟩
    · obtain rfl := Wrapper.target_injective same
      rw [carried] at hc
      obtain ⟨-, -, rfl⟩ := Option.map_eq_some_iff.mp hc
      exact Firing.exitOf_append_concerns rfl
    · rw [Firing.exitOf_append_other (Ne.symm other) (foreign m before)]
      exact h.carried m z ctx old hc
    · obtain ⟨z', same, exited, -⟩ := born _ new
      obtain rfl := Wrapper.target_injective same
      rw [exited] at hc
      obtain rfl := Option.some.inj hc
      exact Firing.exitOf_append_created unused (Nat.ne_of_lt inside) (by rw [new]; rfl)
  · rcases lookup_set_append hz with ⟨rfl, same⟩ | ⟨-, before, old⟩ | ⟨rfl, new⟩
    · obtain rfl := Wrapper.target_injective same
      rw [Firing.textOf_append_other (foreign m inside)]
      exact h.text m x text' found (text ▸ ht)
    · rw [Firing.textOf_append_other (foreign m before)]
      exact h.text m z text' old ht
    · obtain ⟨z', same, -, prepared⟩ := born _ new
      obtain rfl := Wrapper.target_injective same
      obtain rfl := prepared text' ht
      exact Firing.textOf_append_created (fun g hg => (unused g hg).2) (by rw [new]; rfl)

theorem perform_untold {n : Nat} {t : Target σ} {call : BaseCall} {r : Response σ} {w : World σ}
    (found : p.targets[n]? = some t) (answer : t.perform call p.world = ((r, t), w))
    (told : t.told? call p.world = none) :
    p.perform n t call = ⟨w, p.targets ++ r.target?.toList, p.firings⟩ := by
  obtain ⟨inside, same⟩ := List.getElem?_eq_some_iff.mp found
  have kept : p.targets.set n t = p.targets := by
    rw [← same]
    exact List.set_getElem_self inside
  simp [Pool.perform, answer, told, kept]

theorem perform_told {n : Nat} {x : Wrapper σ} {call : BaseCall} {a : Account σ}
    (h : a.Of x call p.world) :
    p.perform n x.target call =
      ⟨(x.target.perform call p.world).2,
        p.targets.set n (x.settled a.exit a.left) ++
          (a.response.observed x.config a.made.text a.exit).target?.toList,
        p.firings ++ [⟨n, (a.response.observed x.config a.made.text a.exit).target?.map
          fun _ => p.targets.length, a.made, a.exit⟩]⟩ := by
  simp [Pool.perform, h.outcome, h.told?]

theorem Sound.perform (h : p.Sound) {n : Nat} {t : Target σ} (found : p.targets[n]? = some t)
    (call : BaseCall) : (p.perform n t call).Sound := by
  cases observed : t.wrapper? with
  | none =>
    obtain ⟨id, base⟩ := Target.exists_baseId observed
    have told : t.told? call p.world = none := by rw [Target.told?, observed]
    rcases Target.perform_base base call p.world with ⟨-, nothing⟩ | ⟨r, b, answer, born⟩
    · rw [perform_untold found nothing told]
      exact h.extend _ nofun
    · rw [perform_untold found answer told]
      exact h.extend _ fun created hc => forgetful_base (born created hc)
  | some x =>
    obtain rfl := Target.eq_target observed
    by_cases reported : ∃ made, x.treatment call = .reported made
    · obtain ⟨made, treated⟩ := reported
      obtain ⟨a, account, -⟩ := exists_account treated p.world
      obtain ⟨y, left, carried, text⟩ :=
        x.settled_perform a.exit (a.made.under a.exit) a.asked
      rw [account.inside] at left
      rw [perform_told account, left]
      exact h.fire _ found carried text fun created hc => Response.target?_observed hc
    · have unreported := not_exists.mp reported
      obtain ⟨r, v, answer, barren⟩ := Wrapper.perform_of_ne_reported unreported p.world
      rw [perform_untold found answer (told?_of_ne_reported unreported _), barren]
      exact h.extend _ nofun

theorem Sound.step (h : p.Sound) (turn : Turn σ) : (p.step turn).Sound := by
  cases turn with
  | elsewhere change => exact ⟨h.handle_lt, h.created_lt, h.carried, h.text⟩
  | connected c =>
    have grown : Sound ⟨p.world, p.targets ++ (some (.conn c)).toList, p.firings⟩ := by
      refine h.extend p.world ?_
      rintro created ⟨⟩
      exact forgetful_conn c
    exact grown
  | call n call =>
    cases found : p.targets[n]? with
    | none => simpa [Pool.step, found] using h
    | some t => simpa [Pool.step, found] using h.perform found call

/-- However calls on however many handles follow each other, each handle carries what the calls on
it have left to it. -/
theorem Sound.run (h : p.Sound) (turns : List (Turn σ)) : (p.run turns).Sound := by
  induction turns generalizing p with
  | nil => exact h
  | cons turn turns ih => exact ih (h.step turn)

theorem exists_carried {x : Wrapper σ} {call made : BaseCall}
    (treated : x.treatment call = .reported made) (h : call.origin = .carried) :
    ∃ ctx, x.carried? = some ctx := by
  have taken := Wrapper.takes_of_reported treated
  cases x with
  | conn config inner =>
    cases call with
    | stmtExec args | stmtQuery args | commit | rollback => cases taken
    | _ => cases h
  | stmt config text carried inner => exact ⟨carried, rfl⟩
  | tx config carried inner => exact ⟨carried, rfl⟩

/-- A call with this origin enters the hooks with this context, made on this handle of the pool. -/
def Enters (p : Pool σ) (n : Nat) (entry : Context) : Origin → Prop
  | .caller ctx => entry = ctx
  | .ambient => entry = p.world.ambient
  | .carried => Firing.exitOf n p.firings = some entry

theorem Sound.enters (h : p.Sound) {n : Nat} {x : Wrapper σ}
    (held : p.targets[n]? = some x.target) {call : BaseCall} {a : Account σ}
    (account : a.Of x call p.world) : p.Enters n a.entry call.origin := by
  rw [account.entered, Wrapper.entry]
  cases origin : call.origin with
  | caller ctx => rfl
  | ambient => rfl
  | carried =>
    obtain ⟨ctx, carried⟩ := exists_carried account.treated origin
    rw [carried]
    exact h.carried n x ctx held carried

theorem perform_unreported {n : Nat} {x : Wrapper σ} {call : BaseCall}
    (held : p.targets[n]? = some x.target) (h : x.Unreported call) :
    (p.perform n x.target call).firings = p.firings ∧
      (p.perform n x.target call).targets = p.targets := by
  have unreported := Wrapper.not_reported h
  obtain ⟨r, v, answer, barren⟩ := Wrapper.perform_of_ne_reported unreported p.world
  rw [perform_untold held answer (told?_of_ne_reported unreported _), barren]
  exact ⟨rfl, List.append_nil _⟩

/-- After any run, a statement or transaction carries what the last hook returned in the latest
call on it, or in the call that created it. A call that the hooks are not told of changes nothing
of this. In every other call the first hook is handed the caller's, the ambient or the carried
context, each further hook what the one before it returned, and the call inside and all hooks after
it what the last one returned. -/
theorem run_contexts (turns : List (Turn σ)) (w : World σ) (n : Nat) (x : Wrapper σ)
    (held : ((fresh w).run turns).targets[n]? = some x.target) :
    let p := (fresh w).run turns
    (∀ ctx, x.carried? = some ctx → Firing.exitOf n p.firings = some ctx) ∧
    ∀ call : BaseCall,
      (x.Unreported call → (p.perform n x.target call).firings = p.firings ∧
        (p.perform n x.target call).targets = p.targets) ∧
      (¬ x.Unreported call → ∃ (a : Account σ) (bs ms as : List Effect) (created : Option Nat),
        a.Of x call p.world ∧ p.Enters n a.entry call.origin ∧
        (p.perform n x.target call).firings = p.firings ++ [⟨n, created, a.made, a.exit⟩] ∧
        (p.perform n x.target call).world.telemetry.effects =
          p.world.telemetry.effects ++ (bs ++ ms ++ as) ∧
        Effect.notes bs =
          (a.visits.flatMap fun v => v.hook.notes .before v.handed (x.event a.made)) ∧
        Effect.notes as = (x.config.hooks.flatMap fun h => h.notes .after a.exit a.last) ∧
        (∀ id, x.inner.baseId? = some id → ms = [.called id (a.made.under a.exit)]) ∧
        ∀ ctx, (a.made.under a.exit).context? = some ctx → ctx = a.exit) := by
  intro p
  have sound : p.Sound := (sound_fresh w).run turns
  refine ⟨fun ctx carried => sound.carried n x ctx held carried, fun call => ⟨?_, fun told => ?_⟩⟩
  · exact perform_unreported held
  · obtain ⟨made, treated⟩ := Wrapper.exists_reported told
    obtain ⟨a, account, -⟩ := exists_account treated p.world
    obtain ⟨bs, ms, as, added, noted, -, inside, noted', -⟩ := account.effects
    rw [perform_told account]
    refine ⟨a, bs, ms, as, _, account, sound.enters held account, rfl, added, noted, noted', ?_, ?_⟩
    · intro id base
      rw [account.answered_base base] at inside
      exact (List.append_cancel_left inside).symm
    · intro ctx handed
      rw [BaseCall.context?_under] at handed
      obtain ⟨-, -, rfl⟩ := Option.map_eq_some_iff.mp handed
      rfl

/-- Of two recording hooks the second numbers the context that a prepared statement carries. -/
theorem run_contexts_prepared :
    let base : Conn Bench := .base (Scripted.conn Bench.onFaults 0 (.standard .none))
    let config : Configuration := ⟨.sqlite, [.record "first", .record "last"]⟩
    let w : World Bench := ⟨⟨[.none], []⟩, .empty, .empty⟩
    let turns : List (Turn Bench) :=
      [.connected (.observed config base), .call 0 (.prepare "SELECT")]
    let x : Wrapper Bench := .stmt config "SELECT" ⟨some 2, none⟩
      (.base (Scripted.stmt Bench.onFaults 0 (.standard .none)))
    ((fresh w).run turns).targets[1]? = some x.target ∧
      Firing.exitOf 1 ((fresh w).run turns).firings = some ⟨some 2, none⟩ := by
  intro base config w turns x
  have held : ((fresh w).run turns).targets[1]? = some x.target := rfl
  exact ⟨held, (run_contexts turns w 1 x held).1 _ rfl⟩

end Pool
end DriverTelemetry
