import Mathlib.Tactic.IntervalCases
import PoolCheck.Proofs.Literal
import PoolCheck.Tensor.Npy

/-!
# Written headers are values

The dictionary that describes a tensor is read as the value it writes. A number in it ends at a
comma or a bracket, and a tuple has a comma behind a single item.
-/

set_option autoImplicit false

namespace PoolCheck.Npy.Value

/-! ## Numbers -/

def IsEnd (c : Char) : Prop := c = ',' ∨ c = ')'

variable {c : Char} {rest : Rest}

theorem digitValue?_of_isDigit {d : Char} (h : d.isDigit = true) :
    digitValue? 10 d = some (d.toNat - 48) := by
  have hle : d.toNat ≤ 57 := (Char.isDigit_iff_toNat.1 h).2
  simp only [digitValue?, h, if_true]
  exact if_pos (by omega)

theorem moreDigits_digits {ds : List Char} (hd : ∀ d ∈ ds, d.isDigit = true) (hc : IsEnd c)
    (n : Nat) : moreDigits 10 n (ds ++ c :: rest) = (Nat.ofDigitChars 10 ds n, c :: rest) := by
  induction ds generalizing n with
  | nil => rcases hc with rfl | rfl <;> rfl
  | cons d ds ih =>
    have hdigit := hd d List.mem_cons_self
    rw [List.cons_append, moreDigits]
    · rw [digitValue?_of_isDigit hdigit, Nat.ofDigitChars_cons]
      exact ih (fun e he => hd e (List.mem_cons_of_mem _ he)) _
    · rintro _ _ rfl
      cases hdigit

theorem digits?_toDigits (n : Nat) (hc : IsEnd c) :
    digits? (Nat.toDigits 10 n ++ c :: rest) = some (n, c :: rest) := by
  have hd : ∀ d ∈ Nat.toDigits 10 n, d.isDigit = true := fun _ => isDigit_of_mem_toDigits
  have hvalue := @Nat.ofDigitChars_ten_toDigits n
  cases hds : Nat.toDigits 10 n with
  | nil => exact absurd hds Nat.toDigits_ne_nil
  | cons d ds =>
    rw [hds] at hd hvalue
    rw [List.cons_append, digits?, digitValue?_of_isDigit (hd d List.mem_cons_self),
      Option.map_some, moreDigits_digits (fun e he => hd e (List.mem_cons_of_mem _ he)) hc]
    rw [Nat.ofDigitChars_cons, Nat.mul_zero, Nat.zero_add] at hvalue
    exact congrArg (fun m => some (m, c :: rest)) hvalue

theorem exists_toDigits (n : Nat) : ∃ d ds, d < 10 ∧ Nat.toDigits 10 n = Nat.digitChar d :: ds ∧
    (d = 0 → n = 0 ∧ ds = []) := by
  cases hds : Nat.toDigits 10 n with
  | nil => exact absurd hds Nat.toDigits_ne_nil
  | cons first ds =>
    have hfirst : first ∈ Nat.toDigits 10 n := by
      rw [hds]
      exact List.mem_cons_self
    obtain ⟨d, hd, rfl⟩ := exists_digitChar (isDigit_of_mem_toDigits hfirst)
    refine ⟨d, ds, hd, rfl, ?_⟩
    rintro rfl
    have hn : n = 0 := eq_zero_of_head_toDigits (by rw [hds]; rfl)
    rw [hn, Nat.toDigits_zero] at hds
    cases hds
    exact ⟨hn, rfl⟩

theorem whole?_toDigits (n : Nat) (hc : IsEnd c) :
    whole? (Nat.toDigits 10 n ++ c :: rest) = some (n, c :: rest) := by
  have hdigits : digits? (Nat.toDigits 10 n ++ c :: rest) = _ := digits?_toDigits n hc
  obtain ⟨d, ds, hd, htext, hzero⟩ := exists_toDigits n
  by_cases hz : d = 0
  · obtain ⟨rfl, rfl⟩ := hzero hz
    rw [Nat.toDigits_zero] at hdigits ⊢
    rcases hc with rfl | rfl <;> exact hdigits
  · rw [whole?]
    · exact hdigits
    · intro c' rest' h
      rw [htext, List.cons_append, List.cons.injEq] at h
      revert h
      interval_cases d <;> simp at hz ⊢

theorem number?_toDigits (n : Nat) (hc : IsEnd c) :
    number? (Nat.toDigits 10 n ++ c :: rest) = some (some (n : Int), c :: rest) := by
  have hdigits : digits? (Nat.toDigits 10 n ++ c :: rest) = _ := digits?_toDigits n hc
  have hwhole : whole? (Nat.toDigits 10 n ++ c :: rest) = _ := whole?_toDigits n hc
  have hpointed : pointed? (Nat.toDigits 10 n ++ c :: rest) = none := by
    rw [pointed?, hdigits]
    rcases hc with rfl | rfl <;> rfl
  have hexponent : exponent? (c :: rest) = none := by
    rcases hc with rfl | rfl <;> rfl
  have hfraction : fraction? (Nat.toDigits 10 n ++ c :: rest) = none := by
    simp only [fraction?, hpointed, hdigits, Option.map_some, Option.bind_some, hexponent,
      Option.bind_none]
  simp only [number?, hfraction, hdigits, hwhole, Option.none_or, Option.map_some]
  rcases hc with rfl | rfl <;> rfl

theorem signs_digit (fuel : Nat) (negative met : Bool) {d : Nat} (hd : d < 10) (cs : Rest) :
    signs fuel negative met (Nat.digitChar d :: cs) = (negative, met, Nat.digitChar d :: cs) := by
  cases fuel with
  | zero => rfl
  | succ fuel => interval_cases d <;> rfl

theorem signs_end (fuel : Nat) (negative met : Bool) (hc : IsEnd c) :
    signs fuel negative met (c :: rest) = (negative, met, c :: rest) := by
  cases fuel with
  | zero => rfl
  | succ fuel => rcases hc with rfl | rfl <;> rfl

theorem sum?_toDigits (n : Nat) (hc : IsEnd c) :
    sum? (Nat.toDigits 10 n ++ c :: rest) = some (number (some n), c :: rest) := by
  have hnumber : number? (Nat.toDigits 10 n ++ c :: rest) = _ := number?_toDigits n hc
  obtain ⟨d, ds, hd, htext, -⟩ := exists_toDigits n
  have hmore : ∀ fuel total, moreTerms fuel total (c :: rest) = (total, c :: rest) := by
    intro fuel total
    cases fuel with
    | zero => rfl
    | succ fuel => rw [moreTerms, signs_end _ _ _ hc]
  rw [htext] at hnumber ⊢
  rw [List.cons_append] at hnumber ⊢
  simp only [sum?, signs_digit _ _ _ hd, hnumber, hmore, bind, Option.bind, signed, Option.map_some,
    Bool.false_eq_true, if_false]

theorem read?_toDigits (fuel n : Nat) (hc : IsEnd c) :
    read? (fuel + 1) (Nat.toDigits 10 n ++ c :: rest) = some (number (some n), c :: rest) := by
  have hsum : sum? (Nat.toDigits 10 n ++ c :: rest) = _ := sum?_toDigits n hc
  obtain ⟨d, ds, hd, htext, -⟩ := exists_toDigits n
  rw [htext, List.cons_append] at hsum ⊢
  have hskip : skipBlanks (Nat.digitChar d :: (ds ++ c :: rest)) =
      Nat.digitChar d :: (ds ++ c :: rest) := by
    interval_cases d <;> rfl
  have hstring : string? (Nat.digitChar d :: (ds ++ c :: rest)) = none := by
    interval_cases d <;> rfl
  rw [read?, hskip]
  simp only [hstring, hsum, Option.none_or, Option.some_or]

theorem read?_blank (fuel : Nat) (cs : Rest) : read? fuel (' ' :: cs) = read? fuel cs := by
  cases fuel with
  | zero => rfl
  | succ fuel =>
    rw [read?, read?]
    rfl

/-! ## Tuples -/

theorem items?_blank (fuel : Nat) (closing : Char) (cs : Rest) :
    items? fuel closing (' ' :: cs) = items? fuel closing cs := by
  cases fuel with
  | zero => rfl
  | succ fuel =>
    rw [items?, items?, read?_blank]
    rfl

theorem mark?_toDigits (m : Char) (hm : m.isDigit = false) (n : Nat) (cs : Rest) :
    mark? m (Nat.toDigits 10 n ++ cs) = none := by
  obtain ⟨d, ds, hd, htext, -⟩ := exists_toDigits n
  have hchar : (Nat.digitChar d).isDigit = true := by simp [Nat.isDigit_digitChar, hd]
  have hskip : skipBlanks (Nat.digitChar d :: (ds ++ cs)) = Nat.digitChar d :: (ds ++ cs) := by
    interval_cases d <;> rfl
  rw [htext, List.cons_append, mark?, hskip]
  simp only
  rw [if_neg]
  rintro rfl
  rw [hchar] at hm
  cases hm

def ofExtent (d : Nat) : Value := number (some (d : Int))

theorem items?_numbers (d : Nat) (ds : List Nat) {fuel : Nat} (h : ds.length + 1 < fuel) :
    items? fuel ')' ([',', ' '].intercalate ((d :: ds).map (Nat.toDigits 10)) ++ ')' :: rest) =
      some ((d :: ds).map ofExtent, false, rest) := by
  induction ds generalizing d fuel with
  | nil =>
    obtain ⟨fuel, rfl⟩ : ∃ k, fuel = k + 2 := ⟨fuel - 2, by rw [List.length_nil] at h; omega⟩
    rw [List.map_singleton, List.intercalate_singleton, items?, mark?_toDigits _ (by decide),
      read?_toDigits fuel d (.inr rfl)]
    rfl
  | cons e es ih =>
    rw [List.length_cons] at h
    obtain ⟨fuel, rfl⟩ : ∃ k, fuel = k + 2 := ⟨fuel - 2, by omega⟩
    rw [List.map_cons, List.map_cons, List.intercalate_cons_cons, List.append_assoc,
      List.append_assoc, List.cons_append, items?, mark?_toDigits _ (by decide),
      read?_toDigits fuel d (.inl rfl)]
    have hmore := @ih e (fuel + 1) (by omega)
    rw [List.map_cons, ← items?_blank] at hmore
    exact Option.bind_eq_some_iff.2 ⟨_, rfl, Option.bind_eq_some_iff.2 ⟨_, hmore, rfl⟩⟩

theorem shapeTuple_singleton (d : Nat) :
    (shapeTuple [d]).toList = '(' :: (Nat.toDigits 10 d ++ [',', ')']) := by
  rw [show shapeTuple [d] = "(" ++ toString d ++ ",)" from rfl, String.toList_append,
    String.toList_append, Nat.toString_eq_repr, Nat.toList_repr, List.append_assoc]
  rfl

theorem shapeTuple_cons_cons (d e : Nat) (es : List Nat) : (shapeTuple (d :: e :: es)).toList =
    '(' :: ([',', ' '].intercalate ((d :: e :: es).map (Nat.toDigits 10)) ++ [')']) := by
  have hmap : ((d :: e :: es).map fun d => toString d).map String.toList =
      (d :: e :: es).map (Nat.toDigits 10) := by
    rw [List.map_map]
    exact List.map_congr_left fun _ _ => Nat.toList_repr
  rw [shapeTuple, String.toList_append, String.toList_append, String.toList_intercalate, hmap,
    List.append_assoc]
  · rfl
  · nofun
  · nofun

theorem read?_shapeTuple (s : Shape) {fuel : Nat} (h : s.length + 2 < fuel) :
    read? fuel ((shapeTuple s).toList ++ rest) = some (tuple (s.map ofExtent), rest) := by
  obtain ⟨fuel, rfl⟩ : ∃ k, fuel = k + 3 := ⟨fuel - 3, by omega⟩
  have htuple : ∀ (cs : Rest) (vs : List Value) (comma : Bool),
      items? (fuel + 2) ')' cs = some (vs, comma, rest) → ¬(vs.length = 1 ∧ (!comma) = true) →
      read? (fuel + 3) ('(' :: cs) = some (tuple vs, rest) := by
    intro cs vs comma hitems hone
    exact Option.bind_eq_some_iff.2 ⟨_, hitems, if_neg hone⟩
  rcases s with - | ⟨d, - | ⟨e, es⟩⟩
  · exact htuple _ _ true rfl (by simp)
  · have hitems : items? (fuel + 2) ')' (Nat.toDigits 10 d ++ ',' :: ')' :: rest) =
        some ([ofExtent d], true, rest) := by
      rw [items?, mark?_toDigits _ (by decide), read?_toDigits fuel d (.inl rfl)]
      rfl
    rw [shapeTuple_singleton, List.cons_append, List.append_assoc]
    exact htuple _ _ true hitems (by simp)
  · rw [List.length_cons, List.length_cons] at h
    rw [shapeTuple_cons_cons, List.cons_append, List.append_assoc]
    exact htuple _ _ false (items?_numbers d (e :: es) (by rw [List.length_cons]; omega)) (by simp)

theorem length_intercalate_cons (d e : Nat) (es : List Nat) :
    ([',', ' '].intercalate ((d :: e :: es).map (Nat.toDigits 10))).length =
      (Nat.toDigits 10 d).length + 2 + ([',', ' '].intercalate ((e :: es).map (Nat.toDigits 10))).length := by
  rw [List.map_cons, List.map_cons, List.intercalate_cons_cons, List.length_append,
    List.length_append, ← List.map_cons]
  rfl

theorem le_length_intercalate (ds : List Nat) :
    ds.length ≤ ([',', ' '].intercalate (ds.map (Nat.toDigits 10))).length := by
  induction ds with
  | nil => simp
  | cons d ds ih =>
    have hpos := @Nat.length_toDigits_pos 10 d
    cases ds with
    | nil => rwa [List.map_singleton, List.intercalate_singleton]
    | cons e es =>
      rw [length_intercalate_cons, List.length_cons]
      omega

theorem length_intercalate_le (ds : List Nat) {b : Nat}
    (h : ∀ d ∈ ds, (Nat.toDigits 10 d).length ≤ b) :
    ([',', ' '].intercalate (ds.map (Nat.toDigits 10))).length ≤ (b + 2) * ds.length := by
  induction ds with
  | nil => simp
  | cons d ds ih =>
    have hd := h d List.mem_cons_self
    have hds := ih fun e he => h e (List.mem_cons_of_mem _ he)
    cases ds with
    | nil =>
      rw [List.map_singleton, List.intercalate_singleton, List.length_singleton]
      omega
    | cons e es =>
      rw [length_intercalate_cons, List.length_cons, Nat.mul_succ]
      omega

theorem length_shapeTuple (s : Shape) : s.length ≤ (shapeTuple s).toList.length ∧
    (shapeTuple s).toList.length ≤
      ([',', ' '].intercalate (s.map (Nat.toDigits 10))).length + 3 := by
  have h := le_length_intercalate s
  rcases s with - | ⟨d, - | ⟨e, es⟩⟩
  · exact ⟨by simp, by simp [shapeTuple]⟩
  · rw [List.map_singleton, List.intercalate_singleton] at h ⊢
    rw [shapeTuple_singleton, List.length_cons (a := '('), List.length_append]
    simp only [List.length_cons, List.length_nil] at h ⊢
    omega
  · rw [shapeTuple_cons_cons, List.length_cons (a := '('), List.length_append,
      List.length_singleton]
    omega

/-! ## The dictionary -/

section Entries

variable {fuel : Nat} {cs r₁ r₂ r₃ : Rest} {key v : Value} {more : List (Value × Value)}

theorem read?_entries (hc : mark? '\x7d' cs = none) (hk : read? fuel cs = some (key, r₁))
    (hm : mark? ':' r₁ = some r₂) (hv : read? fuel r₂ = some (v, r₃))
    (he : entries? fuel r₃ = some (more, rest)) :
    read? (fuel + 1) ('\x7b' :: cs) = some (Value.dictionary ((key, v) :: more), rest) := by
  have hother : (string? ('\x7b' :: cs)).or ((sum? ('\x7b' :: cs)).or (word? ('\x7b' :: cs))) =
      none := rfl
  have hskip : skipBlanks ('\x7b' :: cs) = '\x7b' :: cs := rfl
  rw [read?, hskip]
  simp [hother, hc, hk, hm, hv, he]

theorem entries?_cons (hc : mark? '\x7d' cs = none) (hk : read? fuel cs = some (key, r₁))
    (hm : mark? ':' r₁ = some r₂) (hv : read? fuel r₂ = some (v, r₃))
    (he : entries? fuel r₃ = some (more, rest)) :
    entries? (fuel + 1) (',' :: cs) = some ((key, v) :: more, rest) := by
  have hcomma : mark? ',' (',' :: cs) = some cs := rfl
  rw [entries?, hcomma]
  simp [hc, hk, hm, hv, he]

end Entries

def described (s : Shape) : Value :=
  .dictionary [(text "descr", text "<f4"), (text "fortran_order", flag false),
    (text "shape", tuple (s.map ofExtent))]

theorem front_toList : "\x7b'descr': '<f4', 'fortran_order': False, 'shape': ".toList =
    '\x7b' :: ("'descr'".toList ++ ':' :: ' ' :: ("'<f4'".toList ++ ',' :: ' ' ::
      ("'fortran_order'".toList ++ ':' :: ' ' :: ("False".toList ++ ',' :: ' ' ::
        ("'shape'".toList ++ [':', ' ']))))) := rfl

theorem dictionary_toList (s : Shape) : (Npy.dictionary s).toList =
    '\x7b' :: ("'descr'".toList ++ ':' :: ' ' :: ("'<f4'".toList ++ ',' :: ' ' ::
      ("'fortran_order'".toList ++ ':' :: ' ' :: ("False".toList ++ ',' :: ' ' ::
        ("'shape'".toList ++ ':' :: ' ' :: ((shapeTuple s).toList ++ ['\x7d'])))))) := by
  have h : (Npy.dictionary s).toList =
      "\x7b'descr': '<f4', 'fortran_order': False, 'shape': ".toList ++
        ((shapeTuple s).toList ++ ['\x7d']) := by
    unfold Npy.dictionary
    rw [String.toList_append, String.toList_append, List.append_assoc]
    congr 1
  refine h.trans ?_
  refine (congrArg (· ++ ((shapeTuple s).toList ++ ['\x7d'])) front_toList).trans ?_
  simp only [List.cons_append, List.append_assoc, List.nil_append]

theorem read?_dictionary (s : Shape) {fuel : Nat} (h : s.length + 5 < fuel) :
    read? fuel ((Npy.dictionary s).toList ++ rest) = some (described s, rest) := by
  obtain ⟨fuel, rfl⟩ : ∃ k, fuel = k + 5 := ⟨fuel - 5, by omega⟩
  have hshape : read? (fuel + 2) ((shapeTuple s).toList ++ '\x7d' :: rest) = _ :=
    read?_shapeTuple s (by omega)
  rw [← read?_blank] at hshape
  rw [dictionary_toList]
  simp only [List.cons_append, List.append_assoc, List.nil_append]
  refine read?_entries rfl rfl rfl rfl ?_
  refine entries?_cons rfl rfl rfl rfl ?_
  exact entries?_cons rfl rfl rfl hshape rfl

theorem length_dictionary (s : Shape) :
    (Npy.dictionary s).toList.length = (shapeTuple s).toList.length + 51 := by
  rw [dictionary_toList]
  simp only [List.length_cons, List.length_append, List.length_nil,
    show "'descr'".toList.length = 7 from rfl, show "'<f4'".toList.length = 5 from rfl,
    show "'fortran_order'".toList.length = 15 from rfl, show "False".toList.length = 5 from rfl,
    show "'shape'".toList.length = 7 from rfl]
  omega

theorem ofText?_dictionary (s : Shape) (n : Nat) :
    ofText? ((Npy.dictionary s).toList ++ List.replicate n ' ') = some (described s) := by
  have hblank : skipBlanks (List.replicate n ' ') = [] := by
    induction n with
    | zero => rfl
    | succ n ih =>
      rw [List.replicate_succ]
      exact ih
  have hlength := length_dictionary s
  have htuple := (length_shapeTuple s).1
  rw [ofText?, read?_dictionary s (by rw [List.length_append]; omega)]
  simp only
  rw [if_pos hblank]

end PoolCheck.Npy.Value
