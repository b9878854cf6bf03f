import DriverTelemetry.FrontEnd.Client
import DriverTelemetry.Proofs.BaseDrivers
import DriverTelemetry.Proofs.Transparency
import Mathlib.Data.List.Forall2

/-!
# Clients of observed drivers

Two clients are related when each handle of the first is an observed form of the handle that the
second has under the same number. A request that both make in turn has one outcome, makes the same
base calls, and leaves the clients related, so the same holds of whole runs.
-/
namespace DriverTelemetry.FrontEnd

variable {σ α β : Type}

private theorem forall₂_getElem? {R : α → β → Prop} {l : List α} {l' : List β}
    (h : List.Forall₂ R l l') (n : Nat) : Option.Rel R l[n]? l'[n]? := by
  induction h generalizing n with
  | nil => exact .none
  | cons hab _ ih =>
    cases n with
    | zero => exact .some hab
    | succ n => exact ih n

private theorem forall₂_set {R : α → β → Prop} {l : List α} {l' : List β} {a : α} {b : β}
    (h : List.Forall₂ R l l') (hab : R a b) (n : Nat) :
    List.Forall₂ R (l.set n a) (l'.set n b) := by
  induction h generalizing n with
  | nil => exact .nil
  | cons head rest ih =>
    cases n with
    | zero => exact .cons hab rest
    | succ n => exact .cons head (ih n)

private theorem forall₂_append {R : α → β → Prop} {l : List α} {l' : List β} {a : α} {b : β}
    (h : List.Forall₂ R l l') (hab : R a b) : List.Forall₂ R (l ++ [a]) (l' ++ [b]) :=
  List.rel_append h (.cons hab .nil)

namespace Client

/-- Each handle of the first client is an observed form of that handle of the second. -/
structure Covers (c c' : Client σ) : Prop where
  natives : ∀ name, Agree Driver.Covers (c.natives.lookup name) (c'.natives.lookup name)
  dbs : List.Forall₂ Db.Covers c.dbs c'.dbs
  conns : List.Forall₂ Conn.Covers c.conns c'.conns
  stmts : List.Forall₂ Stmt.Covers c.stmts c'.stmts
  txs : List.Forall₂ Tx.Covers c.txs c'.txs

theorem covers_fresh {t t' : NativeTable σ}
    (h : ∀ name, Agree Driver.Covers (t.lookup name) (t'.lookup name)) :
    (fresh t).Covers (fresh t') := ⟨h, .nil, .nil, .nil, .nil⟩

def Keeps (a b : Outcome × Client σ) : Prop := a.1 = b.1 ∧ a.2.Covers b.2

variable {c c' : Client σ}

theorem keeps_receive (h : c.Covers c') {R : α → β → Prop} {r : Answer α} {r' : Answer β}
    (agree : Agree R r r') {keep : α → Client σ} {keep' : β → Client σ}
    (kept : ∀ a b, R a b → (keep a).Covers (keep' b)) :
    Keeps (c.receive r keep) (c'.receive r' keep') := by
  cases agree with
  | error err => exact ⟨rfl, h⟩
  | ok hab => exact ⟨rfl, kept _ _ hab⟩

theorem alike_onHandle (h : c.Covers c') {R : α → β → Prop} {handle : Option α}
    {handle' : Option β} (rel : Option.Rel R handle handle')
    {call : α → Run σ (Outcome × Client σ)} {call' : β → Run σ (Outcome × Client σ)}
    (alike : ∀ a b, R a b → Alike Keeps (call a) (call' b)) :
    Alike Keeps (c.onHandle handle call) (c'.onHandle handle' call') := by
  cases rel with
  | none => exact .pure ⟨rfl, h⟩
  | some hab => exact alike _ _ hab

theorem alike_onConn (h : c.Covers c') (n : Nat)
    {call call' : Conn σ → Run σ (Outcome × Client σ)}
    (alike : ∀ conn, conn.ContextBlind → Alike Keeps (call conn) (call' conn.unobserved)) :
    Alike Keeps (c.onHandle c.conns[n]? call) (c'.onHandle c'.conns[n]? call') := by
  refine alike_onHandle h (forall₂_getElem? h.conns n) fun conn _ ⟨blind, unobserved⟩ => ?_
  subst unobserved
  exact alike conn blind

theorem alike_onStmt (h : c.Covers c') (n : Nat)
    {call call' : Stmt σ → Run σ (Outcome × Client σ)}
    (alike : ∀ s, s.ContextBlind → Alike Keeps (call s) (call' s.unobserved)) :
    Alike Keeps (c.onHandle c.stmts[n]? call) (c'.onHandle c'.stmts[n]? call') := by
  refine alike_onHandle h (forall₂_getElem? h.stmts n) fun s _ ⟨blind, unobserved⟩ => ?_
  subst unobserved
  exact alike s blind

theorem alike_onTx (h : c.Covers c') (n : Nat) {call call' : Tx σ → Run σ (Outcome × Client σ)}
    (alike : ∀ t, Alike Keeps (call t) (call' t.unobserved)) :
    Alike Keeps (c.onHandle c.txs[n]? call) (c'.onHandle c'.txs[n]? call') := by
  refine alike_onHandle h (forall₂_getElem? h.txs n) fun t _ unobserved => ?_
  subst unobserved
  exact alike t

theorem alike_perform (h : c.Covers c') (request : Request) :
    Alike Keeps (c.perform request) (c'.perform request) := by
  cases request with
  | openDb name dsn =>
    exact (alike_openDb (h.natives name) dsn).map fun r r' agree =>
      keeps_receive h agree fun db db' covers => { h with dbs := forall₂_append h.dbs covers }
  | connect n ctx =>
    refine alike_onHandle h (forall₂_getElem? h.dbs n) fun db db' covers => ?_
    exact (alike_connect covers ctx ctx).map fun r r' agree =>
      keeps_receive h agree fun conn conn' covers =>
        { h with conns := forall₂_append h.conns covers }
  | exec n ctx text args =>
    refine alike_onConn h n fun conn blind => ?_
    exact (alike_exec conn blind ctx ctx text args).map fun _ _ same =>
      ⟨congrArg Outcome.summary same, h⟩
  | query n ctx text args =>
    refine alike_onConn h n fun conn blind => ?_
    exact (alike_query conn blind ctx ctx text args).map fun _ _ same =>
      ⟨congrArg Outcome.rows same, h⟩
  | prepare n ctx text =>
    refine alike_onConn h n fun conn blind => ?_
    exact (alike_prepare conn blind ctx ctx text).map fun r r' agree =>
      keeps_receive h agree fun s s' covers => { h with stmts := forall₂_append h.stmts covers }
  | begin n ctx opts =>
    refine alike_onConn h n fun conn blind => ?_
    exact (alike_begin conn blind ctx ctx opts).map fun r r' agree =>
      keeps_receive h agree fun t t' covers => { h with txs := forall₂_append h.txs covers }
  | ping n ctx =>
    refine alike_onConn h n fun conn blind => ?_
    exact (alike_ping conn blind ctx ctx).map fun _ _ same => ⟨congrArg Outcome.done same, h⟩
  | close n =>
    refine alike_onConn h n fun conn _ => ?_
    exact (alike_close conn).map fun _ _ same => ⟨congrArg Outcome.done same, h⟩
  | stmtExec n ctx args =>
    refine alike_onStmt h n fun s blind => ?_
    exact (alike_execStmt s blind ctx ctx args).map fun _ _ leaves =>
      ⟨congrArg Outcome.summary leaves.1, { h with stmts := forall₂_set h.stmts leaves.2 n }⟩
  | stmtQuery n ctx args =>
    refine alike_onStmt h n fun s blind => ?_
    exact (alike_queryStmt s blind ctx ctx args).map fun _ _ leaves =>
      ⟨congrArg Outcome.rows leaves.1, { h with stmts := forall₂_set h.stmts leaves.2 n }⟩
  | numInput n =>
    refine alike_onStmt h n fun s _ => ?_
    exact .pure ⟨congrArg Outcome.inputs s.numInput_unobserved.symm, h⟩
  | stmtClose n =>
    refine alike_onStmt h n fun s _ => ?_
    exact (alike_closeStmt s).map fun _ _ same => ⟨congrArg Outcome.done same, h⟩
  | commit n =>
    refine alike_onTx h n fun t => ?_
    exact (alike_commit t).map fun _ _ leaves =>
      ⟨congrArg Outcome.done leaves.1, { h with txs := forall₂_set h.txs leaves.2 n }⟩
  | rollback n =>
    refine alike_onTx h n fun t => ?_
    exact (alike_rollback t).map fun _ _ leaves =>
      ⟨congrArg Outcome.done leaves.1, { h with txs := forall₂_set h.txs leaves.2 n }⟩

theorem callsSince_eq {R : α → β → Prop} {w v : World σ} {p : α × World σ} {q : β × World σ}
    (h : Matches R w v p q) : callsSince w p.2 = callsSince v q.2 := by
  obtain ⟨es, fs, he, hf, same⟩ := h.calls
  rw [callsSince, callsSince, he, hf, List.drop_left, List.drop_left, same]

theorem step_covers (h : c.Covers c') (turn : Turn σ) {w v : World σ} (hb : w.base = v.base) :
    (step turn c w).1 = (step turn c' v).1 ∧ (step turn c w).2.1.Covers (step turn c' v).2.1 ∧
      (step turn c w).2.2.base = (step turn c' v).2.2.base := by
  let entered : World σ := { w with base := turn.change w.base, ambient := turn.ambient }
  let entered' : World σ := { v with base := turn.change v.base, ambient := turn.ambient }
  have same := alike_perform h turn.request entered entered' (congrArg turn.change hb)
  obtain ⟨outcome, covers⟩ := same.answer
  exact ⟨congrArg₂ Exchange.mk outcome (callsSince_eq same), covers, same.base⟩

theorem run_covers (h : c.Covers c') (turns : List (Turn σ)) {w v : World σ}
    (hb : w.base = v.base) : c.run turns w = c'.run turns v := by
  induction turns generalizing c c' w v with
  | nil => rfl
  | cons turn turns ih =>
    obtain ⟨exchange, covers, base⟩ := step_covers h turn hb
    exact congrArg₂ List.cons exchange (ih covers base)

def bottom (t : NativeTable σ) : NativeTable σ := t.map fun _ d => d.unobserved

variable {natives : NativeTable σ}

theorem agree_lookup (blind : ∀ entry ∈ natives.entries, entry.2.ContextBlind) (name : String) :
    Agree Driver.Covers (natives.lookup name) ((bottom natives).lookup name) := by
  rw [bottom, NativeTable.lookup_map]
  cases found : natives.lookup name with
  | error err => exact .error err
  | ok d => exact .ok ⟨blind _ (NativeTable.mem_entries_of_lookup found), rfl⟩

theorem agree_lookup_observed (blind : ∀ entry ∈ natives.entries, entry.2.ContextBlind)
    (config : String → Configuration) (name : String) :
    Agree Driver.Covers ((natives.observed config).lookup name)
      ((bottom natives).lookup name) := by
  rw [bottom, NativeTable.observed, NativeTable.lookup_map, NativeTable.lookup_map]
  cases found : natives.lookup name with
  | error err => exact .error err
  | ok d => exact .ok ⟨blind _ (NativeTable.mem_entries_of_lookup found), rfl⟩

/-- Whatever a client does and whatever becomes of the base drivers meanwhile, under any hooks it
has the outcomes and makes the base calls that it has and makes without them. -/
theorem run_observed (natives : NativeTable σ) (config : String → Configuration)
    (blind : ∀ entry ∈ natives.entries, entry.2.ContextBlind) (turns : List (Turn σ))
    (w : World σ) :
    (fresh (natives.observed config)).run turns w = (fresh natives).run turns w := by
  have observed := covers_fresh (agree_lookup_observed blind config)
  have plain := covers_fresh (agree_lookup blind)
  rw [run_covers observed turns (v := w) rfl, run_covers plain turns (v := w) rfl]

/-- A direct exec that is skipped, then one that fails since all calls now fail, with one hook of
each kind on a scripted driver that is registered beside that of the embedded database. -/
theorem run_observed_skipped :
    let natives : NativeTable Bench := ⟨[("scripted", Bench.scripted 0 (.standard .none)),
      ("embedded", Bench.embedded 1 .sqlite)], by decide⟩
    let config : String → Configuration := fun _ =>
      ⟨.sqlite, [.record "seen", .log .standard, .trace ⟨"scope", true, []⟩]⟩
    let failing : Bench → Bench := fun b => { b with faults := [⟨[], some .badConn⟩] }
    let turns : List (Turn Bench) := [⟨id, .empty, .openDb "scripted" "source"⟩,
      ⟨id, .empty, .connect 0 .empty⟩, ⟨id, .empty, .exec 0 .empty "INSERT" [.int 1]⟩,
      ⟨failing, .empty, .exec 0 .empty "INSERT" [.int 2]⟩]
    let w : World Bench := ⟨⟨[.none], []⟩, .empty, .empty⟩
    (∀ entry ∈ natives.entries, entry.2.ContextBlind) ∧
      (fresh (natives.observed config)).run turns w = (fresh natives).run turns w := by
  intro natives config failing turns w
  have blind : ∀ entry ∈ natives.entries, entry.2.ContextBlind := by
    intro entry h
    rcases List.mem_pair.mp h with rfl | rfl
    · exact Bench.contextBlind_scripted 0 _
    · exact Bench.contextBlind_embedded 1 _
  exact ⟨blind, run_observed natives config blind turns w⟩

end Client
end DriverTelemetry.FrontEnd
