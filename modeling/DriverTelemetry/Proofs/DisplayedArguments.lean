import DriverTelemetry.Arguments
import DriverTelemetry.Proofs.QuotedTexts

/-!
# Displayed arguments

Plain values, those without floats, bytes and moments, can be read off their display. The first
character tells of which kind a value is, and it ends before the comma or the bracket that follows;
so the list ends at its bracket.
-/
namespace DriverTelemetry

namespace Value

def isPlain : Value → Bool
  | .null | .bool _ | .int _ | .text _ => true
  | _ => false

def renderBy (unprintable : Char → Bool) : Value → List Char
  | .text s => Text.quotedBy unprintable s.toList
  | v => v.render

theorem renderBy_isUnprintable (v : Value) : v.renderBy Text.isUnprintable = v.render := by
  cases v with
  | text s => exact Text.quotedBy_isUnprintable s.toList
  | _ => rfl

/-- What a numeral ends before. -/
def EndsNumeral (x : List Char) : Prop := ∃ c y, x = c :: y ∧ c.isDigit = false

theorem exists_natural_eq_cons (n : Nat) :
    ∃ c x, Decimal.natural n = c :: x ∧ c.isDigit = true := by
  cases text : Decimal.natural n with
  | nil =>
    rw [Decimal.natural] at text
    split at text
    · cases text
    · exact absurd (List.append_eq_nil_iff.mp text).2 (List.cons_ne_nil _ _)
  | cons c x =>
    have listed : c ∈ Decimal.natural n := by
      rw [text]
      exact List.mem_cons_self
    exact ⟨c, x, rfl, Decimal.isDigit_of_mem_natural listed⟩

theorem eq_of_natural_append {n m : Nat} {x y : List Char} (ends : EndsNumeral x)
    (ends' : EndsNumeral y) (h : Decimal.natural n ++ x = Decimal.natural m ++ y) :
    n = m ∧ x = y := by
  obtain ⟨c, x, rfl, stop⟩ := ends
  obtain ⟨d, y, rfl, stop'⟩ := ends'
  obtain ⟨digits, rest⟩ := Decimal.eq_of_append_eq (fun _ => Decimal.isDigit_of_mem_natural)
    (fun _ => Decimal.isDigit_of_mem_natural) stop stop' h
  have numbers := congrArg Decimal.value digits
  rw [Decimal.value_natural, Decimal.value_natural] at numbers
  exact ⟨numbers, rest⟩

theorem natural_append_ne (n : Nat) (x y : List Char) : Decimal.natural n ++ x ≠ '-' :: y := by
  obtain ⟨c, z, text, digit⟩ := exists_natural_eq_cons n
  intro h
  rw [text] at h
  rw [(List.cons.inj h).1] at digit
  cases digit

theorem eq_of_integer_append {i j : Int} {x y : List Char} (ends : EndsNumeral x)
    (ends' : EndsNumeral y) (h : Decimal.integer i ++ x = Decimal.integer j ++ y) :
    i = j ∧ x = y := by
  unfold Decimal.integer at h
  split at h
  · split at h
    · obtain ⟨size, rest⟩ := eq_of_natural_append ends ends' (List.cons.inj h).2
      exact ⟨by omega, rest⟩
    · exact absurd h.symm (natural_append_ne _ _ _)
  · split at h
    · exact absurd h (natural_append_ne _ _ _)
    · obtain ⟨size, rest⟩ := eq_of_natural_append ends ends' h
      exact ⟨by omega, rest⟩

/-- What the first character tells of a plain value. -/
inductive Kind where
  | null
  | bool (b : Bool)
  | int
  | text

def Kind.ofFirst? (c : Char) : Option Kind :=
  if c = 'N' then some .null
  else if c = 't' then some (.bool true)
  else if c = 'f' then some (.bool false)
  else if c = '"' then some .text
  else if c = '-' ∨ c.isDigit = true then some .int
  else none

def kind : Value → Kind
  | .null => .null
  | .bool b => .bool b
  | .text _ => .text
  | _ => .int

theorem Kind.ofFirst?_of_isDigit {c : Char} (digit : c.isDigit = true) :
    ofFirst? c = some .int := by
  have unlike {d : Char} (other : d.isDigit = false) : c ≠ d := by
    rintro rfl
    rw [other] at digit
    cases digit
  have null : c ≠ 'N' := unlike rfl
  have yes : c ≠ 't' := unlike rfl
  have no : c ≠ 'f' := unlike rfl
  have quote : c ≠ '"' := unlike rfl
  simp [ofFirst?, null, yes, no, quote, digit]

theorem exists_ofFirst?_integer (i : Int) :
    ∃ c x, Decimal.integer i = c :: x ∧ Kind.ofFirst? c = some .int := by
  unfold Decimal.integer
  split
  · exact ⟨_, _, rfl, rfl⟩
  · obtain ⟨c, x, text, digit⟩ := exists_natural_eq_cons i.natAbs
    exact ⟨c, x, text, Kind.ofFirst?_of_isDigit digit⟩

variable (unprintable : Char → Bool)

theorem exists_ofFirst? {v : Value} (plain : v.isPlain = true) :
    ∃ c x, v.renderBy unprintable = c :: x ∧ Kind.ofFirst? c = some v.kind := by
  cases v with
  | null => exact ⟨_, _, rfl, rfl⟩
  | bool b => cases b <;> exact ⟨_, _, rfl, rfl⟩
  | int i => exact exists_ofFirst?_integer i.toInt
  | text s => exact ⟨_, _, rfl, rfl⟩
  | float x => cases plain
  | bytes bs => cases plain
  | timestamp t => cases plain

theorem legible_renderBy :
    Text.Legible (fun v => v.isPlain = true) (renderBy unprintable) EndsNumeral := by
  refine ⟨fun {v w x y} plain plain' ends ends' h => ?_⟩
  have kinds : v.kind = w.kind := by
    obtain ⟨c, z, text, first⟩ := exists_ofFirst? unprintable plain
    obtain ⟨d, z', text', first'⟩ := exists_ofFirst? unprintable plain'
    rw [text, text'] at h
    rw [(List.cons.inj h).1, first'] at first
    exact (Option.some.inj first).symm
  cases v with
  | null =>
    cases w with
    | null => exact ⟨rfl, List.append_cancel_left h⟩
    | _ => cases kinds
  | bool b =>
    cases w with
    | bool b' =>
      cases kinds
      exact ⟨rfl, List.append_cancel_left h⟩
    | _ => cases kinds
  | int i =>
    cases w with
    | int j =>
      obtain ⟨same, rest⟩ := eq_of_integer_append ends ends' h
      exact ⟨congrArg int (Int64.toInt_inj.mp same), rest⟩
    | null | bool b | text s => cases kinds
    | float x | bytes bs | timestamp t => cases plain'
  | text s =>
    cases w with
    | text t =>
      have quoted := Text.legible_quotedBy unprintable
      obtain ⟨same, rest⟩ := quoted.told trivial trivial trivial trivial h
      exact ⟨congrArg text (String.toList_inj.mp same), rest⟩
    | _ => cases kinds
  | float x => cases plain
  | bytes bs => cases plain
  | timestamp t => cases plain

theorem unbroken_natural (n : Nat) : Text.Unbroken (Decimal.natural n) := by
  intro c member listed
  have others : (Text.breaks.all fun b => !b.isDigit) = true := by decide
  have other := List.all_eq_true.mp others c listed
  rw [Decimal.isDigit_of_mem_natural member] at other
  cases other

theorem unbroken_renderBy {v : Value} (plain : v.isPlain = true) :
    Text.Unbroken (v.renderBy unprintable) := by
  cases v with
  | null => exact (Text.unbroken_of_all (by decide) : Text.Unbroken ['N', 'U', 'L', 'L'])
  | bool b =>
    cases b with
    | true => exact (Text.unbroken_of_all (by decide) : Text.Unbroken ['t', 'r', 'u', 'e'])
    | false => exact (Text.unbroken_of_all (by decide) : Text.Unbroken ['f', 'a', 'l', 's', 'e'])
  | int i =>
    change Text.Unbroken (Decimal.integer i.toInt)
    unfold Decimal.integer
    split
    · exact Text.unbroken_cons (by decide) (unbroken_natural _)
    · exact unbroken_natural _
  | text s => exact Text.unbroken_quotedBy unprintable s.toList
  | float x => cases plain
  | bytes bs => cases plain
  | timestamp t => cases plain

end Value

namespace Arguments

theorem separated_cons (item : List Char) (items : List (List Char)) :
    separated (item :: items) = item ++ items.flatMap fun item => ',' :: ' ' :: item := by
  induction items generalizing item with
  | nil => rw [separated, List.flatMap_nil, List.append_nil]
  | cons other items ih =>
    rw [separated, ih, List.flatMap_cons]
    · rfl
    · exact List.cons_ne_nil _ _

section

variable (unprintable : Char → Bool)

/-- The display of values, given which characters are unprintable. -/
def valuesBy (vs : List Value) : List Char :=
  '[' :: separated (vs.map (Value.renderBy unprintable)) ++ [']']

def displayBy (vs : List Value) : String := String.ofList (valuesBy unprintable vs)

theorem displayBy_isUnprintable (vs : List Value) :
    displayBy Text.isUnprintable vs = (values vs).display := by
  have same : Value.renderBy Text.isUnprintable = Value.render :=
    funext Value.renderBy_isUnprintable
  rw [displayBy, valuesBy, same, display, render, items]

def separatedBy (v : Value) : List Char := ',' :: ' ' :: v.renderBy unprintable

theorem valuesBy_cons (v : Value) (vs : List Value) (x : List Char) :
    valuesBy unprintable (v :: vs) ++ x =
      '[' :: (v.renderBy unprintable ++ (vs.flatMap (separatedBy unprintable) ++ ']' :: x)) := by
  rw [valuesBy, List.map_cons, separated_cons, List.flatMap_map]
  simp only [List.append_assoc, List.cons_append, List.nil_append]
  rfl

theorem legible_separatedBy :
    Text.Legible (fun v => v.isPlain = true) (separatedBy unprintable) Value.EndsNumeral := by
  refine ⟨fun {v w x y} plain plain' ends ends' h => ?_⟩
  rw [separatedBy, separatedBy] at h
  have rest := (List.cons.inj (List.cons.inj h).2).2
  exact (Value.legible_renderBy unprintable).told plain plain' ends ends' rest

theorem valuesBy_nil_append_ne {w : Value} (plain : w.isPlain = true) (ws : List Value)
    (x y : List Char) : valuesBy unprintable [] ++ x ≠ valuesBy unprintable (w :: ws) ++ y := by
  intro h
  obtain ⟨c, z, text, first⟩ := Value.exists_ofFirst? unprintable plain
  rw [valuesBy_cons, text] at h
  obtain rfl := (List.cons.inj (List.cons.inj h).2).1
  cases first

theorem endsNumeral_after (vs : List Value) (x : List Char) :
    Value.EndsNumeral (vs.flatMap (separatedBy unprintable) ++ ']' :: x) := by
  cases vs with
  | nil => exact ⟨_, _, rfl, rfl⟩
  | cons v vs => exact ⟨_, _, rfl, rfl⟩

theorem legible_valuesBy :
    Text.Legible (fun vs => ∀ v ∈ vs, v.isPlain = true) (valuesBy unprintable) fun _ => True := by
  refine ⟨fun {vs ws x y} plain plain' _ _ h => ?_⟩
  cases vs with
  | nil =>
    cases ws with
    | nil => exact ⟨rfl, List.append_cancel_left h⟩
    | cons w ws => exact absurd h (valuesBy_nil_append_ne unprintable (plain' w (by simp)) ws x y)
  | cons v vs =>
    cases ws with
    | nil => exact absurd h.symm (valuesBy_nil_append_ne unprintable (plain v (by simp)) vs y x)
    | cons w ws =>
      rw [List.forall_mem_cons] at plain plain'
      rw [valuesBy_cons, valuesBy_cons] at h
      obtain ⟨rfl, rest⟩ := (Value.legible_renderBy unprintable).told plain.1 plain'.1
        (endsNumeral_after unprintable vs x) (endsNumeral_after unprintable ws y)
        (List.cons.inj h).2
      -- The values after the first each have the separator in front, so none begins with the
      -- closing bracket.
      have closed := (legible_separatedBy unprintable).closed ']'
        (fun _ _ => ⟨_, _, rfl, rfl⟩) (fun _ => ⟨_, _, rfl, rfl⟩)
        (fun _ _ _ h => absurd (List.cons.inj h).1 (by decide))
      rw [← List.singleton_append, ← List.append_assoc, ← List.singleton_append (l := y),
        ← List.append_assoc] at rest
      obtain ⟨rfl, rfl⟩ := closed.told plain.2 plain'.2 trivial trivial rest
      exact ⟨rfl, rfl⟩

theorem unbroken_valuesBy {vs : List Value} (plain : ∀ v ∈ vs, v.isPlain = true) :
    Text.Unbroken (valuesBy unprintable vs) := by
  cases vs with
  | nil => exact (Text.unbroken_of_all (by decide) : Text.Unbroken ['[', ']'])
  | cons v vs =>
    rw [List.forall_mem_cons] at plain
    have shown := valuesBy_cons unprintable v vs []
    rw [List.append_nil] at shown
    rw [shown]
    refine Text.unbroken_cons (by decide) (Text.unbroken_append ?_ (Text.unbroken_append ?_ ?_))
    · exact Value.unbroken_renderBy unprintable plain.1
    · refine Text.unbroken_flatMap fun w listed => ?_
      refine Text.unbroken_cons (by decide) (Text.unbroken_cons (by decide) ?_)
      exact Value.unbroken_renderBy unprintable (plain.2 w listed)
    · exact Text.unbroken_cons (by decide) Text.unbroken_nil

end

/-- Two lists of values are told apart by how each is shown, whatever is written after it, and no
line and no field ends inside of what is shown. -/
structure ToldApart (shown : List Value → String) (vs ws : List Value) : Prop where
  eq_of_shown : shown vs = shown ws → vs = ws
  eq_of_prefix : ∀ x y : String, shown vs ++ x = shown ws ++ y → vs = ws ∧ x = y
  unbroken : ∀ c ∈ ['\n', '\r', '\t', '\x00'], c ∉ (shown vs).toList ∧ c ∉ (shown ws).toList

section

variable {vs ws : List Value} (plain : ∀ v ∈ vs, v.isPlain = true)
  (plain' : ∀ w ∈ ws, w.isPlain = true)

include plain plain'

theorem toldApart_displayBy (unprintable : Char → Bool) :
    ToldApart (displayBy unprintable) vs ws := by
  have prefixes : ∀ x y : String, displayBy unprintable vs ++ x = displayBy unprintable ws ++ y →
      vs = ws ∧ x = y := by
    intro x y h
    have texts := congrArg String.toList h
    rw [String.toList_append, String.toList_append, displayBy, displayBy, String.toList_ofList,
      String.toList_ofList] at texts
    obtain ⟨same, rest⟩ := (legible_valuesBy unprintable).told plain plain' trivial trivial texts
    exact ⟨same, String.toList_inj.mp rest⟩
  refine ⟨fun h => (prefixes "" "" (by rw [h])).1, prefixes, fun c listed => ?_⟩
  rw [displayBy, displayBy, String.toList_ofList, String.toList_ofList]
  exact ⟨fun member => unbroken_valuesBy unprintable plain c member listed,
    fun member => unbroken_valuesBy unprintable plain' c member listed⟩

/-- Arguments that are shown as the same text are the same, and no text among them can pass for
another argument, for the end of the list or for the end of a line: whatever follows a displayed
list, the list can be read off and what follows as well. This holds also where other characters than
these are unprintable. -/
theorem display_unambiguous :
    ToldApart (fun vs => (values vs).display) vs ws ∧
      (∀ unprintable, ToldApart (displayBy unprintable) vs ws) ∧
      ∀ us, displayBy Text.isUnprintable us = (values us).display := by
  refine ⟨?_, toldApart_displayBy plain plain', displayBy_isUnprintable⟩
  have shown := toldApart_displayBy plain plain' Text.isUnprintable
  rwa [funext displayBy_isUnprintable] at shown

end

/-- A text that is made to look like two arguments and the end of a line. -/
def forging : List Value := [.text "a\", NULL]\n[\\u\x7b0\x7d", .int (-7)]

def forged : List Value := [.text "a", .null]

theorem display_unambiguous_forging :
    (values forging).display ≠ (values forged).display ∧
      ¬ (∃ x, (values forged).display ++ x = (values forging).display) ∧
      '\n' ∉ (values forging).display.toList := by
  have plain : ∀ v ∈ forging, v.isPlain = true := by decide
  have plain' : ∀ w ∈ forged, w.isPlain = true := by decide
  have apart := (display_unambiguous plain plain').1
  have differ : forging ≠ forged := by decide
  refine ⟨fun h => ?_, fun ⟨x, h⟩ => ?_, (apart.unbroken '\n' (by decide)).1⟩
  · exact differ (apart.eq_of_shown h)
  · exact differ (apart.eq_of_prefix "" x (by rw [String.append_empty, h])).1

end Arguments
end DriverTelemetry
