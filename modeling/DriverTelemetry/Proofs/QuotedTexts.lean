import DriverTelemetry.Text.Quoted
import DriverTelemetry.Proofs.Numerals

/-!
# Quoted texts can be read off

What is written of one character of a text shows where it ends, and only a text's closing quote
looks like one; so a quoted text can be read off wherever it stands, and no line ends inside. None
of it depends on which characters are held to be unprintable.
-/
namespace DriverTelemetry.Text

/-- Items of a kind can be read off what is written of them, wherever what follows ends it. -/
structure Legible {α : Type} (kind : α → Prop) (write : α → List Char)
    (Ends : List Char → Prop) : Prop where
  told : ∀ {a b : α} {x y : List Char}, kind a → kind b → Ends x → Ends y →
    write a ++ x = write b ++ y → a = b ∧ x = y

/-- A list of legible items is legible itself when a mark closes it that no item begins with. -/
theorem Legible.closed {α : Type} {kind : α → Prop} {write : α → List Char}
    {Ends : List Char → Prop} (legible : Legible kind write Ends) (mark : Char)
    (begun : ∀ a x, Ends (write a ++ x)) (marked : ∀ x, Ends (mark :: x))
    (unlike : ∀ a x y, write a ++ x ≠ mark :: y) :
    Legible (fun as : List α => ∀ a ∈ as, kind a) (fun as => as.flatMap write ++ [mark])
      fun _ => True := by
  have ends (as : List α) (x : List Char) : Ends (as.flatMap write ++ mark :: x) := by
    cases as with
    | nil => exact marked x
    | cons a as =>
      rw [List.flatMap_cons, List.append_assoc]
      exact begun a _
  refine ⟨fun {as bs x y} kinds kinds' _ _ h => ?_⟩
  rw [List.append_assoc, List.append_assoc, List.singleton_append, List.singleton_append] at h
  -- Of two lists that go on alike neither can end first: the mark would stand where an item begins.
  induction as generalizing bs with
  | nil =>
    cases bs with
    | nil => exact ⟨rfl, (List.cons.inj h).2⟩
    | cons b bs =>
      rw [List.flatMap_cons, List.append_assoc] at h
      exact absurd h.symm (unlike b _ _)
  | cons a as ih =>
    cases bs with
    | nil =>
      rw [List.flatMap_cons, List.append_assoc] at h
      exact absurd h (unlike a _ _)
    | cons b bs =>
      rw [List.forall_mem_cons] at kinds kinds'
      rw [List.flatMap_cons, List.flatMap_cons, List.append_assoc, List.append_assoc] at h
      obtain ⟨rfl, rest⟩ := legible.told kinds.1 kinds'.1 (ends as x) (ends bs y) h
      obtain ⟨rfl, rfl⟩ := ih kinds.2 kinds'.2 rest
      exact ⟨rfl, rfl⟩

theorem toDigits_eq_append (n : Nat) :
    Nat.toDigits 16 n =
      (if n < 16 then [] else Nat.toDigits 16 (n / 16)) ++ [Nat.digitChar (n % 16)] := by
  rw [Nat.toDigits_eq_if (by decide)]
  split
  · next small => rw [Nat.mod_eq_of_lt small, List.nil_append]
  · rfl

theorem eq_of_toDigits_eq {n m : Nat} (h : Nat.toDigits 16 n = Nat.toDigits 16 m) : n = m := by
  have digits : ∀ k < 16, ∀ l < 16, Nat.digitChar k = Nat.digitChar l → k = l := by decide
  induction n using Nat.strongRecOn generalizing m with
  | ind n ih =>
    rw [toDigits_eq_append n, toDigits_eq_append m] at h
    obtain ⟨upper, last⟩ := List.append_inj' h rfl
    have last : n % 16 = m % 16 :=
      digits _ (Nat.mod_lt n (by decide)) _ (Nat.mod_lt m (by decide)) (List.cons.inj last).1
    split at upper
    · split at upper
      · omega
      · exact absurd upper.symm Nat.toDigits_ne_nil
    · split at upper
      · exact absurd upper Nat.toDigits_ne_nil
      · have upper : n / 16 = m / 16 := ih (n / 16) (by omega) upper
        omega

theorem hexCode_injective {c d : Char} (h : hexCode c = hexCode d) : c = d :=
  Char.toNat_inj.mp (eq_of_toDigits_eq h)

theorem exists_digitChar_of_mem_toDigits {n : Nat} {c : Char} (h : c ∈ Nat.toDigits 16 n) :
    ∃ k < 16, c = Nat.digitChar k := by
  induction n using Nat.strongRecOn with
  | ind n ih =>
    rw [toDigits_eq_append, List.mem_append, List.mem_singleton] at h
    rcases h with upper | last
    · split at upper
      · cases upper
      · exact ih (n / 16) (by omega) upper
    · exact ⟨n % 16, Nat.mod_lt n (by decide), last⟩

theorem ne_brace_of_mem_hexCode {c e : Char} (h : e ∈ hexCode c) : (e != '\x7d') = true := by
  have digits : ∀ k < 16, (Nat.digitChar k != '\x7d') = true := by decide
  obtain ⟨k, small, rfl⟩ := exists_digitChar_of_mem_toDigits h
  exact digits k small

/-- The characters with a short escape, and the signs that stand for them after a backslash. -/
def shortEscapes : List (Char × Char) :=
  [('\x00', '0'), ('\t', 't'), ('\n', 'n'), ('\r', 'r'), ('"', '"'), ('\\', '\\')]

def escapeBy (unprintable : Char → Bool) (c : Char) : List Char :=
  match shortEscapes.find? fun short => c = short.1 with
  | some short => ['\\', short.2]
  | none => if unprintable c then '\\' :: 'u' :: '\x7b' :: (hexCode c ++ ['\x7d']) else [c]

theorem escapeBy_isUnprintable : escapeBy isUnprintable = escape := by
  funext c
  unfold escape
  iterate 6
    split
    · next same =>
      subst same
      rfl
  simp only [escapeBy, shortEscapes, List.find?_cons, List.find?_nil, decide_false, *]
  rfl

/-- The ways in which a character may be written: by its sign, by its number or as it is. -/
inductive Escape (c : Char) : List Char → Prop where
  | short {sign : Char} (listed : (c, sign) ∈ shortEscapes) : Escape c ['\\', sign]
  | number : Escape c ('\\' :: 'u' :: '\x7b' :: (hexCode c ++ ['\x7d']))
  | plain (unlisted : ∀ short ∈ shortEscapes, c ≠ short.1) : Escape c [c]

theorem escape_escapeBy (unprintable : Char → Bool) (c : Char) :
    Escape c (escapeBy unprintable c) := by
  unfold escapeBy
  split
  · next short found =>
    obtain ⟨of, sign⟩ := short
    have same : c = of := by simpa using List.find?_some found
    subst same
    exact .short (List.mem_of_find?_eq_some found)
  · next missing =>
    split
    · exact .number
    · exact .plain (by simpa using missing)

theorem eq_of_sign_eq : ∀ short ∈ shortEscapes, ∀ other ∈ shortEscapes,
    short.2 = other.2 → short.1 = other.1 := by
  decide

theorem sign_ne_u : ∀ short ∈ shortEscapes, short.2 ≠ 'u' := by decide

namespace Escape

variable {c d : Char} {s t : List Char}

theorem ne_backslash (unlisted : ∀ short ∈ shortEscapes, c ≠ short.1) : c ≠ '\\' :=
  unlisted ('\\', '\\') (by decide)

/-- What is written of a character shows the character and where it ends. After a backslash the sign
tells a short escape from a number, and a number ends at its bracket. -/
theorem told (h : Escape c s) (h' : Escape d t) {x y : List Char} (same : s ++ x = t ++ y) :
    c = d ∧ x = y := by
  cases h with
  | short listed =>
    cases h' with
    | short listed' =>
      obtain ⟨sign, rest⟩ := List.cons.inj (List.cons.inj same).2
      exact ⟨eq_of_sign_eq _ listed _ listed' sign, rest⟩
    | number => exact absurd (List.cons.inj (List.cons.inj same).2).1 (sign_ne_u _ listed)
    | plain unlisted => exact absurd (List.cons.inj same).1.symm (ne_backslash unlisted)
  | number =>
    cases h' with
    | short listed =>
      exact absurd (List.cons.inj (List.cons.inj same).2).1.symm (sign_ne_u _ listed)
    | number =>
      simp only [List.cons_append, List.append_assoc, List.cons.injEq, true_and] at same
      obtain ⟨code, rest⟩ := Decimal.eq_of_append_eq (fun _ => ne_brace_of_mem_hexCode)
        (fun _ => ne_brace_of_mem_hexCode) rfl rfl same
      exact ⟨hexCode_injective code, (List.cons.inj rest).2⟩
    | plain unlisted => exact absurd (List.cons.inj same).1.symm (ne_backslash unlisted)
  | plain unlisted =>
    cases h' with
    | short listed => exact absurd (List.cons.inj same).1 (ne_backslash unlisted)
    | number => exact absurd (List.cons.inj same).1 (ne_backslash unlisted)
    | plain unlisted' => exact List.cons.inj same

theorem append_ne_quote (h : Escape c s) (x y : List Char) : s ++ x ≠ '"' :: y := by
  intro same
  cases h with
  | short listed => exact absurd (List.cons.inj same).1 (by decide)
  | number => exact absurd (List.cons.inj same).1 (by decide)
  | plain unlisted => exact unlisted ('"', '"') (by decide) (List.cons.inj same).1

end Escape

variable (unprintable : Char → Bool)

theorem legible_escapeBy : Legible (fun _ => True) (escapeBy unprintable) fun _ => True where
  told _ _ _ _ h := (escape_escapeBy unprintable _).told (escape_escapeBy unprintable _) h

def quotedBy (s : List Char) : List Char := '"' :: s.flatMap (escapeBy unprintable) ++ ['"']

theorem quotedBy_isUnprintable (s : List Char) : quotedBy isUnprintable s = quotedChars s := by
  rw [quotedBy, escapeBy_isUnprintable, quotedChars]

theorem legible_quotedBy :
    Legible (fun _ => True) (quotedBy unprintable) fun _ => True := by
  refine ⟨fun {s t x y} _ _ _ _ h => ?_⟩
  have closed := (legible_escapeBy unprintable).closed '"' (fun _ _ => trivial)
    (fun _ => trivial) fun c => (escape_escapeBy unprintable c).append_ne_quote
  exact closed.told (fun _ _ => trivial) (fun _ _ => trivial) trivial trivial (List.cons.inj h).2

/-- The characters that end a line or a field where texts are written one after the other. -/
def breaks : List Char := ['\n', '\r', '\t', '\x00']

/-- No line and no field ends inside. -/
def Unbroken (text : List Char) : Prop := ∀ c ∈ text, c ∉ breaks

theorem unbroken_nil : Unbroken [] := fun _ member => absurd member List.not_mem_nil

theorem unbroken_append {x y : List Char} (h : Unbroken x) (h' : Unbroken y) :
    Unbroken (x ++ y) := List.forall_mem_append.mpr ⟨h, h'⟩

theorem unbroken_cons {c : Char} {x : List Char} (h : c ∉ breaks) (h' : Unbroken x) :
    Unbroken (c :: x) := List.forall_mem_cons.mpr ⟨h, h'⟩

theorem unbroken_of_all {text : List Char} (h : (text.all fun c => c ∉ breaks) = true) :
    Unbroken text := fun c member => of_decide_eq_true (List.all_eq_true.mp h c member)

theorem unbroken_hexCode (c : Char) : Unbroken (hexCode c) := by
  intro e digit
  have digits : ∀ k < 16, Nat.digitChar k ∉ breaks := by decide
  obtain ⟨k, small, rfl⟩ := exists_digitChar_of_mem_toDigits digit
  exact digits k small

theorem Escape.unbroken {c : Char} {s : List Char} (h : Escape c s) : Unbroken s := by
  have signs : ∀ short ∈ shortEscapes, short.2 ∉ breaks := by decide
  have escaped : (breaks.all fun b => b ∈ shortEscapes.map Prod.fst) = true := by decide
  cases h with
  | short listed => exact unbroken_cons (by decide) (unbroken_cons (signs _ listed) unbroken_nil)
  | number =>
    refine unbroken_cons (by decide) (unbroken_cons (by decide) (unbroken_cons (by decide) ?_))
    exact unbroken_append (unbroken_hexCode c) (unbroken_cons (by decide) unbroken_nil)
  | plain unlisted =>
    refine unbroken_cons (fun member => ?_) unbroken_nil
    have listed := of_decide_eq_true (List.all_eq_true.mp escaped c member)
    obtain ⟨short, listed, same⟩ := List.mem_map.mp listed
    exact unlisted short listed same.symm

theorem unbroken_flatMap {α : Type} {write : α → List Char} {as : List α}
    (h : ∀ a ∈ as, Unbroken (write a)) : Unbroken (as.flatMap write) := by
  intro c member
  obtain ⟨a, listed, written⟩ := List.mem_flatMap.mp member
  exact h a listed c written

theorem unbroken_quotedBy (s : List Char) : Unbroken (quotedBy unprintable s) := by
  refine unbroken_append (unbroken_cons (by decide) ?_) (unbroken_cons (by decide) unbroken_nil)
  exact unbroken_flatMap fun c _ => (escape_escapeBy unprintable c).unbroken

end DriverTelemetry.Text
