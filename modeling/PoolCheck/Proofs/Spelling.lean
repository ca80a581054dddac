import Mathlib.Data.List.Forall2
import Mathlib.Data.Nat.Digits.Defs
import PoolCheck.Conversion.Argument
import PoolCheck.Proofs.Literal
import PoolCheck.Proofs.Text

/-!
# Spellings of the shape argument

Blanks around a number, a plus sign and leading zeros do not change the number, so one shape has
many spellings. They are described by putting texts together, and the reader takes them apart: each
of its steps cuts off one part of the description, and what has no such part is refused. The
spelling that is written for a shape is one of them.
-/

set_option autoImplicit false

namespace PoolCheck

namespace Text

variable {p t cs ds w core : List Char} {n : Nat}

/-! ## Cutting off ends -/

theorem stripFront?_eq_some {rest : List Char} : stripFront? p cs = some rest ↔ cs = p ++ rest := by
  induction p generalizing cs with
  | nil => simp [stripFront?]
  | cons c p ih =>
    cases cs with
    | nil => simp [stripFront?]
    | cons d ds =>
      rw [stripFront?, List.cons_append, List.cons.injEq]
      by_cases h : c = d
      · simp [h, ih]
      · simp [h, Ne.symm h]

theorem stripFront?_append (p cs : List Char) : stripFront? p (p ++ cs) = some cs :=
  stripFront?_eq_some.2 rfl

theorem stripBack?_eq_some {front : List Char} :
    stripBack? t cs = some front ↔ cs = front ++ t := by
  rw [stripBack?, Option.map_eq_some_iff]
  constructor
  · rintro ⟨rest, h, rfl⟩
    rw [← List.reverse_reverse cs, stripFront?_eq_some.1 h]
    simp
  · rintro rfl
    exact ⟨front.reverse, by simp [stripFront?_append], by simp⟩

theorem stripBack?_of_last {c d : Char} (h : d ≠ c) (t front : List Char) :
    stripBack? (t ++ [c]) (front ++ [d]) = none := by
  cases he : stripBack? (t ++ [c]) (front ++ [d]) with
  | none => rfl
  | some rest =>
    rw [stripBack?_eq_some, ← List.append_assoc, List.append_singleton_inj] at he
    exact absurd he.2 h

/-! ## Blanks -/

theorem exists_trim (cs : List Char) : ∃ before after, cs = before ++ trim cs ++ after ∧
    (∀ c ∈ before, isBlank c = true) ∧ ∀ c ∈ after, isBlank c = true := by
  have hfront := List.takeWhile_append_dropWhile (p := isBlank) (l := cs)
  have hback := List.takeWhile_append_dropWhile (p := isBlank) (l := (trimFront cs).reverse)
  refine ⟨cs.takeWhile isBlank, ((trimFront cs).reverse.takeWhile isBlank).reverse, ?_, ?_, ?_⟩
  · rw [List.append_assoc, trim, trimFront, ← List.reverse_append, hback, List.reverse_reverse]
    exact hfront.symm
  · exact List.all_eq_true.1 List.all_takeWhile
  · intro c hc
    exact List.all_eq_true.1 List.all_takeWhile c (List.mem_reverse.1 hc)

theorem trimFront_append {before : List Char} (hb : ∀ c ∈ before, isBlank c = true)
    (hw : ∀ c ∈ w, isBlank c = false) (hne : w ≠ []) (after : List Char) :
    trimFront (before ++ (w ++ after)) = w ++ after := by
  rw [trimFront, List.dropWhile_append_of_pos hb]
  cases w with
  | nil => exact absurd rfl hne
  | cons c w => simp [hw c List.mem_cons_self]

theorem trim_append {before after : List Char} (hb : ∀ c ∈ before, isBlank c = true)
    (ha : ∀ c ∈ after, isBlank c = true) (hw : ∀ c ∈ w, isBlank c = false) (hne : w ≠ []) :
    trim (before ++ w ++ after) = w := by
  have hback : trimFront (after.reverse ++ w.reverse) = w.reverse := by
    simpa using trimFront_append (w := w.reverse) (by simpa using ha) (by simpa using hw)
      (by simpa using hne) []
  rw [trim, List.append_assoc, trimFront_append hb hw hne, List.reverse_append, hback,
    List.reverse_reverse]

/-! ## Numbers -/

def decimalValue (ds : List Char) : Nat :=
  Nat.ofDigits 10 (ds.reverse.map fun c => c.toNat - '0'.toNat)

theorem ofDigitChars_eq (ds : List Char) : Nat.ofDigitChars 10 ds 0 = decimalValue ds := by
  rw [Nat.ofDigitChars, decimalValue, Nat.ofDigits_eq_foldr, List.foldr_map, List.foldr_reverse]
  congr 1
  funext n c
  exact Nat.add_comm _ _

/-- A word with a plus sign or none, and with any number of leading zeros. -/
structure Numeral (sign ds : List Char) (n : Nat) : Prop where
  sign : sign = [] ∨ sign = ['+']
  nonempty : ds ≠ []
  digits : ∀ c ∈ ds, c.isDigit = true
  value : decimalValue ds = n
  lt : n < wordLimit

def Spells (w : List Char) (n : Nat) : Prop :=
  ∃ before sign ds after, w = before ++ (sign ++ ds) ++ after ∧
    (∀ c ∈ before, isBlank c = true) ∧ (∀ c ∈ after, isBlank c = true) ∧ Numeral sign ds n

theorem unsignedCount?_eq_some : unsignedCount? ds = some n ↔ Numeral [] ds n := by
  rw [unsignedCount?, ofDigitChars_eq]
  constructor
  · intro h
    split_ifs at h with hc
    cases h
    exact ⟨.inl rfl, hc.1, List.all_eq_true.1 hc.2.1, rfl, hc.2.2⟩
  · rintro ⟨-, hne, hd, rfl, hlt⟩
    exact if_pos ⟨hne, List.all_eq_true.2 hd, hlt⟩

theorem count?_eq_some : count? cs = some n ↔ ∃ sign ds, cs = sign ++ ds ∧ Numeral sign ds n := by
  constructor
  · intro h
    unfold count? at h
    split at h
    · next ds =>
      obtain ⟨-, hne, hd, hv, hlt⟩ := unsignedCount?_eq_some.1 h
      exact ⟨['+'], ds, rfl, .inr rfl, hne, hd, hv, hlt⟩
    · exact ⟨[], cs, rfl, unsignedCount?_eq_some.1 h⟩
  · rintro ⟨sign, ds, rfl, hs, hne, hd, hv, hlt⟩
    have hcount := unsignedCount?_eq_some.2 ⟨.inl rfl, hne, hd, hv, hlt⟩
    rcases hs with rfl | rfl
    · rw [List.nil_append]
      unfold count?
      split
      · exact absurd (hd '+' List.mem_cons_self) (by decide)
      · exact hcount
    · exact hcount

theorem isBlank_of_isDigit {c : Char} (h : c.isDigit = true) : isBlank c = false := by
  obtain ⟨hl, hu⟩ : 48 ≤ c.toNat ∧ c.toNat ≤ 57 := Char.isDigit_iff_toNat.1 h
  simp only [isBlank, Bool.or_eq_false_iff, Bool.and_eq_false_iff, decide_eq_false_iff_not]
  omega

theorem Numeral.not_blank {sign : List Char} (h : Numeral sign ds n) :
    ∀ c ∈ sign ++ ds, isBlank c = false := by
  intro c hc
  rcases List.mem_append.1 hc with hc | hc
  · rcases h.sign with rfl | rfl
    · cases hc
    · rw [List.mem_singleton.1 hc]
      rfl
  · exact isBlank_of_isDigit (h.digits c hc)

theorem count?_trim_eq_some : count? (trim w) = some n ↔ Spells w n := by
  rw [count?_eq_some]
  constructor
  · rintro ⟨sign, ds, ht, hn⟩
    obtain ⟨before, after, hw, hb, ha⟩ := exists_trim w
    exact ⟨before, sign, ds, after, ht ▸ hw, hb, ha, hn⟩
  · rintro ⟨before, sign, ds, after, rfl, hb, ha, hn⟩
    refine ⟨sign, ds, trim_append hb ha hn.not_blank ?_, hn⟩
    simp [hn.nonempty]

namespace Spells

theorem of_mem (h : Spells w n) {c : Char} (hc : c ∈ w) :
    isBlank c = true ∨ c = '+' ∨ c.isDigit = true := by
  obtain ⟨before, sign, ds, after, rfl, hb, ha, hn⟩ := h
  simp only [List.mem_append] at hc
  rcases hc with (hc | hc | hc) | hc
  · exact .inl (hb c hc)
  · rcases hn.sign with rfl | rfl
    · cases hc
    · exact .inr (.inl (List.mem_singleton.1 hc))
  · exact .inr (.inr (hn.digits c hc))
  · exact .inl (ha c hc)

theorem not_comma (h : Spells w n) : ',' ∉ w := by
  intro hc
  have := h.of_mem hc
  revert this
  decide

theorem exists_not_blank (h : Spells w n) : ∃ c ∈ w, isBlank c = false := by
  obtain ⟨before, sign, ds, after, rfl, -, -, hn⟩ := h
  obtain ⟨c, hc⟩ := List.exists_mem_of_ne_nil _ hn.nonempty
  exact ⟨c, by simp [hc], isBlank_of_isDigit (hn.digits c hc)⟩

end Spells

/-! ## Texts as they are written -/

theorem spells_toDigits (h : n < wordLimit) : Spells (Nat.toDigits 10 n) n :=
  ⟨[], [], Nat.toDigits 10 n, [], by simp, by simp, by simp, .inl rfl, Nat.toDigits_ne_nil,
    fun _ => isDigit_of_mem_toDigits,
    (ofDigitChars_eq _).symm.trans Nat.ofDigitChars_ten_toDigits, h⟩

theorem mem_join (separator : List Char) {ws : List (List Char)} (hw : w ∈ ws) {c : Char}
    (hc : c ∈ w) : c ∈ join separator ws := by
  induction ws with
  | nil => cases hw
  | cons v ws ih =>
    by_cases hz : ws = []
    · subst hz
      rwa [join, ← List.mem_singleton.1 hw]
    · rw [join_cons _ _ hz, List.mem_append, List.mem_append]
      rcases List.mem_cons.1 hw with rfl | hw
      · exact .inl (.inl hc)
      · exact .inr (ih hw)

theorem join_eq_intercalate (separator : List Char) (ws : List (List Char)) :
    join separator ws = separator.intercalate ws := by
  induction ws with
  | nil => rfl
  | cons w ws ih =>
    by_cases hz : ws = []
    · simp [hz, join]
    · rw [join_cons _ _ hz, ih, List.intercalate_cons_of_ne_nil hz]

end Text

/-! ## The shape argument -/

namespace ShapeArgument

open Text

variable {cs body : List Char} {ws : List (List Char)} {s : Shape} {arg : String}

theorem body?_eq_some : body? cs = some body ↔ ∃ suffix, (suffix = [] ∨ suffix = elementType) ∧
    cs = key ++ '[' :: (body ++ ']' :: suffix) := by
  unfold body?
  simp only [Option.bind_eq_bind, Option.bind_eq_some_iff]
  constructor
  · rintro ⟨rest, hrest, inner, hinner, hbody⟩
    rw [stripFront?_eq_some] at hrest hinner
    rw [stripBack?_eq_some] at hbody
    subst hrest hbody
    cases he : stripBack? elementType rest with
    | none =>
      rw [he, Option.getD_none] at hinner
      exact ⟨[], .inl rfl, by rw [hinner]; rfl⟩
    | some front =>
      rw [he, Option.getD_some] at hinner
      rw [stripBack?_eq_some] at he
      exact ⟨elementType, .inr rfl, by rw [he, hinner]; simp⟩
  · rintro ⟨suffix, hsuffix, rfl⟩
    refine ⟨_, stripFront?_append key _, body ++ [']'], ?_, stripBack?_eq_some.2 rfl⟩
    rw [stripFront?_eq_some]
    rcases hsuffix with rfl | rfl
    · have hkept : stripBack? elementType ('[' :: body ++ [']']) = none :=
        stripBack?_of_last (by decide) ['f', '3'] _
      rw [show '[' :: (body ++ [']']) = '[' :: body ++ [']'] from rfl, hkept]
      rfl
    · rw [stripBack?_eq_some.2 (show '[' :: (body ++ ']' :: elementType) =
        ('[' :: body ++ [']']) ++ elementType by simp), Option.getD_some]
      rfl

theorem counts?_eq_some : counts? ws = some s ↔ List.Forall₂ Spells ws s := by
  induction ws generalizing s with
  | nil => simp [counts?, eq_comm]
  | cons w ws ih =>
    simp only [counts?, Option.bind_eq_bind, Option.bind_eq_some_iff, count?_trim_eq_some, ih,
      Option.some.injEq, List.forall₂_cons_left_iff]
    constructor
    · rintro ⟨n, hn, ns, hns, rfl⟩
      exact ⟨n, ns, hn, hns, rfl⟩
    · rintro ⟨n, ns, hn, hns, rfl⟩
      exact ⟨n, hn, ns, hns, rfl⟩

theorem spells_of_mem (h : List.Forall₂ Spells ws s) {w : List Char} (hw : w ∈ ws) :
    ∃ n, Spells w n := by
  induction h with
  | nil => cases hw
  | cons hn _ ih =>
    rcases List.mem_cons.1 hw with rfl | hw
    · exact ⟨_, hn⟩
    · exact ih hw

theorem trim_join_ne_nil (h : List.Forall₂ Spells ws s) (hne : ws ≠ []) :
    trim (join [','] ws) ≠ [] := by
  intro ht
  obtain ⟨before, after, hw, hb, ha⟩ := exists_trim (join [','] ws)
  obtain ⟨w, hmem⟩ := List.exists_mem_of_ne_nil _ hne
  obtain ⟨n, hn⟩ := spells_of_mem h hmem
  obtain ⟨c, hc, hblank⟩ := hn.exists_not_blank
  have hjoin := mem_join [','] hmem hc
  rw [hw, ht, List.append_nil] at hjoin
  rcases List.mem_append.1 hjoin with hc | hc
  · rw [hb c hc] at hblank
    cases hblank
  · rw [ha c hc] at hblank
    cases hblank

theorem numbers?_eq_some : numbers? cs = some s ↔ ∃ ws suffix, ws ≠ [] ∧
    List.Forall₂ Spells ws s ∧ (suffix = [] ∨ suffix = elementType) ∧
      cs = key ++ '[' :: (join [','] ws ++ ']' :: suffix) := by
  unfold numbers?
  simp only [Option.bind_eq_bind, Option.bind_eq_some_iff, body?_eq_some]
  constructor
  · rintro ⟨body, ⟨suffix, hsuffix, hcs⟩, h⟩
    split_ifs at h with hb
    refine ⟨split ',' body, suffix, split_ne_nil _ _, counts?_eq_some.1 h, hsuffix, ?_⟩
    rw [join_split, hcs]
  · rintro ⟨ws, suffix, hne, hws, hsuffix, hcs⟩
    refine ⟨join [','] ws, ⟨suffix, hsuffix, hcs⟩, ?_⟩
    rw [if_neg (trim_join_ne_nil hws hne), split_join hne fun w hw =>
      (spells_of_mem hws hw).elim fun _ => Spells.not_comma]
    exact counts?_eq_some.2 hws

theorem numbers?_format (hne : s ≠ []) (h : ∀ d ∈ s, d < wordLimit) :
    numbers? (format s).toList = some s := by
  refine numbers?_eq_some.2 ⟨s.map (Nat.toDigits 10), [], by simpa using hne, ?_, .inl rfl, ?_⟩
  · rw [List.forall₂_map_left_iff, List.forall₂_same]
    exact fun d hd => spells_toDigits (h d hd)
  · rw [format, String.toList_ofList, List.append_assoc]
    rfl

theorem parse_format (hne : s ≠ []) (h : ∀ d ∈ s, d < wordLimit) :
    parse (format s) = if 0 ∈ s then .error (.emptyExtent s) else .ok s := by
  rw [parse, numbers?_format hne h]

/-- The argument is a spelling of the shape: the key, and numbers between brackets with commas
between them, perhaps with the name of the element type behind. -/
def Denotes (arg : String) (s : Shape) : Prop :=
  ∃ (items : List String) (suffix : String), items ≠ [] ∧
    List.Forall₂ (fun item n => Spells item.toList n) items s ∧ (suffix = "" ∨ suffix = "f32") ∧
      arg = "inputshape=[" ++ ",".intercalate items ++ "]" ++ suffix

theorem toList_spelling (items : List String) (suffix : String) :
    ("inputshape=[" ++ ",".intercalate items ++ "]" ++ suffix).toList =
      key ++ '[' :: (join [','] (items.map String.toList) ++ ']' :: suffix.toList) := by
  have hfront : "inputshape=[".toList = key ++ ['['] := rfl
  have hcomma : ",".toList = [','] := rfl
  have hback : "]".toList = [']'] := rfl
  simp only [String.toList_append, String.toList_intercalate, join_eq_intercalate, hfront, hcomma,
    hback, List.append_assoc, List.cons_append, List.nil_append]

theorem numbers?_toList : numbers? arg.toList = some s ↔ Denotes arg s := by
  rw [numbers?_eq_some]
  constructor
  · rintro ⟨ws, suffix, hne, hws, hsuffix, harg⟩
    have hitems : (ws.map String.ofList).map String.toList = ws := by
      rw [List.map_map]
      exact List.map_id'' (fun w => String.toList_ofList) ws
    refine ⟨ws.map String.ofList, String.ofList suffix, by simpa using hne, ?_, ?_, ?_⟩
    · rw [← hitems, List.forall₂_map_left_iff] at hws
      exact hws
    · rcases hsuffix with rfl | rfl
      · exact .inl rfl
      · exact .inr rfl
    · rw [← String.toList_inj, toList_spelling, hitems, String.toList_ofList, harg]
  · rintro ⟨items, suffix, hne, hitems, hsuffix, rfl⟩
    refine ⟨items.map String.toList, suffix.toList, by simpa using hne, ?_, ?_, ?_⟩
    · rwa [List.forall₂_map_left_iff]
    · rcases hsuffix with rfl | rfl
      · exact .inl rfl
      · exact .inr rfl
    · exact toList_spelling items suffix

theorem parse_of_denotes (h : Denotes arg s) :
    parse arg = if 0 ∈ s then .error (.emptyExtent s) else .ok s := by
  rw [parse, numbers?_toList.2 h]

theorem parse_of_not_denotes (h : ∀ s, ¬Denotes arg s) :
    parse arg = .error (.shapeArgument arg) := by
  cases hn : numbers? arg.toList with
  | none => rw [parse, hn]
  | some s => exact absurd (numbers?_toList.1 hn) (h s)

theorem zero_notMem (s : Shape) : 0 ∉ s ↔ ∀ d ∈ s, 0 < d := by
  simp only [Nat.pos_iff_ne_zero]
  exact ⟨fun hz d hd h => hz (h ▸ hd), fun h hz => h 0 hz rfl⟩

theorem parse_eq_ok : parse arg = .ok s ↔ Denotes arg s ∧ ∀ d ∈ s, 0 < d := by
  rw [← zero_notMem]
  constructor
  · intro hs
    by_cases hd : ∃ t, Denotes arg t
    · obtain ⟨t, ht⟩ := hd
      rw [parse_of_denotes ht] at hs
      split_ifs at hs with hz
      cases hs
      exact ⟨ht, hz⟩
    · rw [parse_of_not_denotes (not_exists.1 hd)] at hs
      cases hs
  · rintro ⟨hs, hz⟩
    rw [parse_of_denotes hs, if_neg hz]

theorem parse_refused (h : ∀ s, ¬(Denotes arg s ∧ ∀ d ∈ s, 0 < d)) :
    parse arg = .error (.shapeArgument arg) ∨
      ∃ s, Denotes arg s ∧ 0 ∈ s ∧ parse arg = .error (.emptyExtent s) := by
  by_cases hd : ∃ s, Denotes arg s
  · obtain ⟨s, hs⟩ := hd
    have hz : 0 ∈ s := by
      by_contra hz
      exact h s ⟨hs, (zero_notMem s).1 hz⟩
    exact .inr ⟨s, hs, hz, by rw [parse_of_denotes hs, if_pos hz]⟩
  · exact .inl (parse_of_not_denotes (not_exists.1 hd))

/-- What is read as a shape are its spellings, if no extent is empty. Any other text is refused: a
spelling of a shape with an empty extent for that shape, and what spells no shape as it stands. The
text that is written for a shape is read as that shape. -/
theorem spellings_read :
    (∀ arg s, parse arg = .ok s ↔ Denotes arg s ∧ ∀ d ∈ s, 0 < d) ∧
    (∀ arg, (∀ s, ¬(Denotes arg s ∧ ∀ d ∈ s, 0 < d)) →
      parse arg = .error (.shapeArgument arg) ∨
        ∃ s, Denotes arg s ∧ 0 ∈ s ∧ parse arg = .error (.emptyExtent s)) ∧
    ∀ s : Shape, s ≠ [] → (∀ d ∈ s, 0 < d ∧ d < wordLimit) → parse (format s) = .ok s := by
  refine ⟨fun arg s => parse_eq_ok, fun arg h => parse_refused h, fun s hne h => ?_⟩
  have hz : 0 ∉ s := (zero_notMem s).2 fun d hd => (h d hd).1
  rw [parse_format hne fun d hd => (h d hd).2, if_neg hz]

theorem spellings_read_padded : parse "inputshape=[ +01,2]f32" = .ok [1, 2] ∧
    parse (format [18446744073709551615]) = .ok [18446744073709551615] := by
  refine ⟨(spellings_read.1 _ _).2 ⟨⟨[" +01", "2"], "f32", by simp, ?_, .inr rfl, rfl⟩, by simp⟩,
    spellings_read.2.2 _ (by simp) (by decide)⟩
  refine .cons ⟨[' '], ['+'], ['0', '1'], [], rfl, List.all_eq_true.1 rfl, by simp, .inr rfl,
    by simp, List.all_eq_true.1 rfl, rfl, by decide⟩ (.cons ?_ .nil)
  exact ⟨[], [], ['2'], [], rfl, by simp, by simp, .inl rfl, by simp, List.all_eq_true.1 rfl, rfl,
    by decide⟩

end ShapeArgument

end PoolCheck
