import Mathlib.Tactic.SplitIfs
import PoolCheck.Json.Printer
import PoolCheck.Proofs.Literal

/-!
# Printed values are lexed

The pretty layout of a value is cut into the tokens of that value again, whatever the names and
strings in it. Between two values there is always a character that ends a word.
-/

set_option autoImplicit false

namespace PoolCheck.Json

/-! ## Strings -/

theorem hexValue?_hexDigit {n : Nat} (h : n < 16) : hexValue? (hexDigit n) = some n := by
  revert h n
  decide

theorem hexDigit_plain {n : Nat} (h : n < 16) : hexDigit n ≠ '"' ∧ hexDigit n ≠ '\\' := by
  revert h n
  decide

def pieceOf (c : Char) : Piece :=
  if c.toNat < 32 ∧ c ∉ ['\n', '\t', '\r', '\x08', '\x0c'] then .unit c.toNat else .char c

theorem pieces?_cons {c : Char} (h : c ≠ '\\') (hc : ¬c.toNat < 32) (rest : List Char) :
    pieces? (c :: rest) = (pieces? rest).map (.char c :: ·) := by
  rw [pieces?]
  · rw [if_neg (by simp [h, hc])]
  · intro _ _ _ _ _ he
    exact absurd he h
  · intro _ _ he
    exact absurd he h

theorem pieces?_escaped (c : Char) (rest : List Char) :
    pieces? (escaped c ++ rest) = (pieces? rest).map (pieceOf c :: ·) := by
  by_cases hs : c ∈ ['"', '\\', '\n', '\t', '\r', '\x08', '\x0c']
  · simp only [List.mem_cons, List.not_mem_nil, or_false] at hs
    rcases hs with rfl | rfl | rfl | rfl | rfl | rfl | rfl
    all_goals
      cases hp : pieces? rest <;> simp [escaped, pieces?, named?, hp, pieceOf]
  · simp only [List.mem_cons, List.not_mem_nil, or_false, not_or] at hs
    obtain ⟨h1, h2, h3, h4, h5, h6, h7⟩ := hs
    unfold escaped
    rw [if_neg h1, if_neg h2, if_neg h3, if_neg h4, if_neg h5, if_neg h6, if_neg h7]
    by_cases hc : c.toNat < 32
    · have hhigh := hexValue?_hexDigit (n := c.toNat / 16) (by omega)
      have hlow := hexValue?_hexDigit (n := c.toNat % 16) (by omega)
      have hunit : unit? '0' '0' (hexDigit (c.toNat / 16)) (hexDigit (c.toNat % 16)) =
          some c.toNat := by
        rw [unit?, hhigh, hlow, show hexValue? '0' = some 0 from rfl]
        simp only [Option.bind_eq_bind, Option.bind_some, Option.some.injEq]
        omega
      have hpiece : pieceOf c = .unit c.toNat := by
        rw [pieceOf, if_pos ⟨hc, by simp [h3, h4, h5, h6, h7]⟩]
      rw [if_pos hc, hpiece]
      simp only [List.cons_append, List.nil_append, pieces?, hunit]
      cases pieces? rest <;> rfl
    · have hpiece : pieceOf c = .char c := by
        rw [pieceOf, if_neg (by simp [hc])]
      rw [if_neg hc, hpiece, List.singleton_append, pieces?_cons h2 hc]

theorem pieces?_flatMap (cs : List Char) :
    pieces? (cs.flatMap escaped) = some (cs.map pieceOf) := by
  induction cs with
  | nil => rfl
  | cons c cs ih =>
    rw [List.flatMap_cons, pieces?_escaped, ih]
    rfl

theorem join?_unit {n : Nat} (h : n < 32) (rest : List Piece) :
    join? (.unit n :: rest) = (join? rest).map (Char.ofNat n :: ·) := by
  have hhigh : isHigh n = false := by
    rw [isHigh, decide_eq_false (by omega)]
    rfl
  have hlow : isLow n = false := by
    rw [isLow, decide_eq_false (by omega)]
    rfl
  cases rest with
  | nil => simp [join?, hhigh, hlow]
  | cons p rest =>
    cases p with
    | char c => simp [join?, hhigh, hlow]
    | unit m => simp [join?, hhigh, hlow]

theorem join?_map (cs : List Char) : join? (cs.map pieceOf) = some cs := by
  induction cs with
  | nil => rfl
  | cons c cs ih =>
    rw [List.map_cons, pieceOf]
    by_cases h : c.toNat < 32 ∧ c ∉ ['\n', '\t', '\r', '\x08', '\x0c']
    · rw [if_pos h, join?_unit h.1, ih, Char.ofNat_toNat]
      rfl
    · rw [if_neg h, join?, ih]
      rfl

theorem stringToken_escaped (s : String) :
    stringToken (s.toList.flatMap escaped) = .string (some s) := by
  rw [stringToken, pieces?_flatMap]
  simp only
  rw [join?_map, Option.map_some, String.ofList_toList]

/-! ## Steps of the lexer -/

namespace Lexer

/-- The tokens once the current word, if there is one, has ended. -/
inductive Settled : Lexer → List Token → Prop where
  | between (ts : List Token) : Settled ⟨ts, .between⟩ ts
  | word (ts : List Token) (seen : List Char) :
    Settled ⟨ts, .inWord seen⟩ (wordToken seen.reverse :: ts)

variable {l : Lexer} {ts : List Token} {c : Char}

theorem Settled.leave (h : Settled l ts) (next : Place) : l.leave next = ⟨ts, next⟩ := by
  cases h <;> rfl

theorem Settled.outside (h : Settled l ts) (c : Char) : l.step c = l.outside c := by
  cases h <;> rfl

theorem Settled.finish (h : Settled l ts) : l.finish = ts.reverse := by
  cases h <;> rfl

theorem Settled.blank (h : Settled l ts) (hc : isBlank c = true) : l.step c = ⟨ts, .between⟩ := by
  rw [h.outside, Lexer.outside, if_pos hc, h.leave]

theorem Settled.quote (h : Settled l ts) : l.step '"' = ⟨ts, .inString []⟩ := by
  rw [h.outside, Lexer.outside, if_neg (by decide), if_pos rfl, h.leave]

theorem Settled.mark (h : Settled l ts) {t : Token} (hc : punctuation? c = some t)
    (hb : isBlank c = false) (hq : c ≠ '"') : l.step c = ⟨t :: ts, .between⟩ := by
  rw [h.outside, Lexer.outside, if_neg (by simp [hb]), if_neg hq, hc, h.leave]
  cases h <;> rfl

theorem blanks (ts : List Token) (n : Nat) :
    (List.replicate n ' ').foldl step ⟨ts, .between⟩ = ⟨ts, .between⟩ := by
  induction n with
  | zero => rfl
  | succ n ih =>
    rw [List.replicate_succ, List.foldl_cons, (Settled.between ts).blank rfl]
    exact ih

theorem Settled.newline (h : Settled l ts) (level : Nat) :
    (newline level).foldl step l = ⟨ts, .between⟩ := by
  rw [Json.newline, List.foldl_cons, h.blank rfl]
  exact blanks ts _

theorem step_inString {seen : List Char} (h1 : c ≠ '"') (h2 : c ≠ '\\') :
    step ⟨ts, .inString seen⟩ c = ⟨ts, .inString (c :: seen)⟩ := by
  show (if c = '"' then _ else if c = '\\' then _ else _) = _
  rw [if_neg h1, if_neg h2]

theorem escaped_inString (c : Char) (ts : List Token) (seen : List Char) :
    (escaped c).foldl step ⟨ts, .inString seen⟩ =
      ⟨ts, .inString ((escaped c).reverse ++ seen)⟩ := by
  have hpair : ∀ d : Char, ['\\', d].foldl step ⟨ts, .inString seen⟩ =
      ⟨ts, .inString (['\\', d].reverse ++ seen)⟩ := fun d => rfl
  unfold escaped
  split_ifs with h1 h2 h3 h4 h5 h6 h7 h8
  · exact hpair _
  · exact hpair _
  · exact hpair _
  · exact hpair _
  · exact hpair _
  · exact hpair _
  · exact hpair _
  · have hhigh := hexDigit_plain (n := c.toNat / 16) (by omega)
    have hlow := hexDigit_plain (n := c.toNat % 16) (by omega)
    show step (step ⟨ts, .inString ('0' :: '0' :: 'u' :: '\\' :: seen)⟩ _) _ = _
    rw [step_inString hhigh.1 hhigh.2, step_inString hlow.1 hlow.2]
    rfl
  · exact step_inString h1 h2

theorem string_inString (cs : List Char) (ts : List Token) (seen : List Char) :
    (cs.flatMap escaped).foldl step ⟨ts, .inString seen⟩ =
      ⟨ts, .inString ((cs.flatMap escaped).reverse ++ seen)⟩ := by
  induction cs generalizing seen with
  | nil => rfl
  | cons c cs ih =>
    rw [List.flatMap_cons, List.foldl_append, escaped_inString, ih, List.reverse_append,
      List.append_assoc]

theorem Settled.quoted (h : Settled l ts) (s : String) :
    (quoted s).foldl step l = ⟨.string (some s) :: ts, .between⟩ := by
  rw [Json.quoted, List.foldl_cons, h.quote, List.foldl_append, string_inString, List.append_nil]
  show (push ⟨ts, _⟩ (stringToken _) : Lexer) = _
  rw [List.reverse_reverse, stringToken_escaped]
  rfl

def isInner (c : Char) : Bool := !isBlank c && c ≠ '"' && (punctuation? c).isNone

theorem step_inner (h : isInner c = true) (seen : List Char) :
    step ⟨ts, .inWord seen⟩ c = ⟨ts, .inWord (c :: seen)⟩ := by
  simp only [isInner, Bool.and_eq_true, Bool.not_eq_true', decide_eq_true_eq,
    Option.isNone_iff_eq_none] at h
  obtain ⟨⟨hb, hq⟩, hp⟩ := h
  show outside _ c = _
  rw [outside, if_neg (by simp [hb]), if_neg hq, hp]

theorem word_inWord {cs : List Char} (h : ∀ c ∈ cs, isInner c = true) (seen : List Char) :
    cs.foldl step ⟨ts, .inWord seen⟩ = ⟨ts, .inWord (cs.reverse ++ seen)⟩ := by
  induction cs generalizing seen with
  | nil => rfl
  | cons c cs ih =>
    rw [List.foldl_cons, step_inner (h c List.mem_cons_self),
      ih (fun d hd => h d (List.mem_cons_of_mem _ hd)), List.reverse_cons, List.append_assoc]
    rfl

theorem settled_word {cs : List Char} (hne : cs ≠ []) (h : ∀ c ∈ cs, isInner c = true)
    (ts : List Token) : Settled (cs.foldl step ⟨ts, .between⟩) (wordToken cs :: ts) := by
  cases cs with
  | nil => exact absurd rfl hne
  | cons c cs =>
    have hc := h c List.mem_cons_self
    simp only [isInner, Bool.and_eq_true, Bool.not_eq_true', decide_eq_true_eq,
      Option.isNone_iff_eq_none] at hc
    obtain ⟨⟨hb, hq⟩, hp⟩ := hc
    have hfirst : step ⟨ts, .between⟩ c = ⟨ts, .inWord [c]⟩ := by
      show outside _ c = _
      rw [outside, if_neg (by simp [hb]), if_neg hq, hp]
    rw [List.foldl_cons, hfirst, word_inWord fun d hd => h d (List.mem_cons_of_mem _ hd)]
    have hw := Settled.word ts (cs.reverse ++ [c])
    rwa [List.reverse_append, List.reverse_reverse] at hw

end Lexer

/-! ## Values -/

mutual

def tokens : Json → List Token
  | null | valueless => [.null]
  | bool b => [.bool b]
  | number l => [.number (some l)]
  | string s => [.string (some s)]
  | array [] _ => [.beginArray, .endArray]
  | array (v :: rest) _ => .beginArray :: (tokens v ++ itemTokens rest)
  | object [] _ => [.beginObject, .endObject]
  | object ((name, v) :: rest) _ =>
    .beginObject :: .string (some name) :: .colon :: (tokens v ++ memberTokens rest)

def itemTokens : List Json → List Token
  | [] => [.endArray]
  | v :: rest => .comma :: (tokens v ++ itemTokens rest)

def memberTokens : List (String × Json) → List Token
  | [] => [.endObject]
  | (name, v) :: rest =>
    .comma :: .string (some name) :: .colon :: (tokens v ++ memberTokens rest)

end

mutual

/-- A value that a text can carry at a place with `room` for open containers. -/
def Printable (room : Nat) : Json → Prop
  | null | bool _ | string _ => True
  | number l => l.Plain ∧ l.value?.isSome = true
  | array items closed => closed = true ∧ 0 < room ∧ ItemsPrintable (room - 1) items
  | object members closed => closed = true ∧ 0 < room ∧ MembersPrintable (room - 1) members
  | valueless => False

def ItemsPrintable (room : Nat) : List Json → Prop
  | [] => True
  | v :: rest => Printable room v ∧ ItemsPrintable room rest

def MembersPrintable (room : Nat) : List (String × Json) → Prop
  | [] => True
  | (_, v) :: rest => Printable room v ∧ MembersPrintable room rest

end

theorem isInner_of_isDigit {c : Char} (h : c.isDigit = true) : Lexer.isInner c = true := by
  obtain ⟨k, hk, rfl⟩ := exists_digitChar h
  revert hk k
  decide

theorem isInner_integerText {x : Int} {c : Char} (h : c ∈ integerText x) :
    Lexer.isInner c = true := by
  have hdecimal : ∀ n, c ∈ Nat.toDigits 10 n → Lexer.isInner c = true := fun n hc =>
    isInner_of_isDigit (isDigit_of_mem_toDigits hc)
  unfold integerText at h
  split_ifs at h
  · rcases List.mem_cons.1 h with rfl | h
    · rfl
    · exact hdecimal _ h
  · exact hdecimal _ h

theorem isInner_exponentText {e : Option Int} {c : Char} (h : c ∈ Literal.exponentText e) :
    Lexer.isInner c = true := by
  cases e with
  | none => cases h
  | some e =>
    rw [Literal.exponentText, List.mem_cons, List.mem_append] at h
    rcases h with rfl | h | h
    · rfl
    · split_ifs at h
      · rw [List.mem_singleton.1 h]
        rfl
      · cases h
    · exact isInner_integerText h

theorem isInner_chars {l : Literal} (hl : l.Plain) {c : Char} (h : c ∈ l.chars true) :
    Lexer.isInner c = true := by
  rw [Literal.chars_eq] at h
  simp only [List.mem_append] at h
  rcases h with h | h | h | h
  · split_ifs at h
    · rw [List.mem_singleton.1 h]
      rfl
    · cases h
  · exact isInner_of_isDigit (hl.whole_digits c h)
  · unfold Literal.fractionText at h
    split_ifs at h
    · cases h
    · rcases List.mem_cons.1 h with rfl | h
      · rfl
      · exact isInner_of_isDigit (hl.fraction_digits c h)
  · exact isInner_exponentText h

theorem wordToken_chars {l : Literal} (hl : l.Plain) (hv : l.value?.isSome = true) :
    wordToken (l.chars true) = .number (some l) := by
  have hread := Literal.literal?_chars hl
  have hname : ∀ w : List Char, literal? w = none → l.chars true ≠ w := by
    rintro w hw rfl
    rw [hread] at hw
    cases hw
  unfold wordToken
  rw [if_neg (hname _ rfl), if_neg (hname _ rfl), if_neg (hname _ rfl), hread]
  simp only
  rw [if_pos hv]

theorem chars_ne_nil {l : Literal} (hl : l.Plain) : l.chars true ≠ [] := by
  have hread := Literal.literal?_chars hl
  intro h
  rw [h] at hread
  cases hread

namespace Lexer

variable {l : Lexer} {ts : List Token} {c : Char} {t : Token}

theorem settled_name {w : List Char} (hne : w ≠ []) (hi : ∀ c ∈ w, isInner c = true)
    (ht : wordToken w = t) (ts : List Token) : Settled (w.foldl step ⟨ts, .between⟩) (t :: ts) :=
  ht ▸ settled_word hne hi ts

theorem Settled.mark_newline (h : Settled l ts) (hc : punctuation? c = some t)
    (hb : isBlank c = false) (hq : c ≠ '"') (level : Nat) :
    (c :: Json.newline level).foldl step l = ⟨t :: ts, .between⟩ := by
  rw [List.foldl_cons, h.mark hc hb hq, (Settled.between _).newline]

theorem Settled.newline_mark (h : Settled l ts) (hc : punctuation? c = some t)
    (hb : isBlank c = false) (hq : c ≠ '"') (level : Nat) :
    (Json.newline level ++ [c]).foldl step l = ⟨t :: ts, .between⟩ := by
  rw [List.foldl_append, h.newline]
  exact (Settled.between ts).mark hc hb hq

theorem name_colon (name : String) (ts : List Token) :
    (quoted name ++ [':', ' ']).foldl step ⟨ts, .between⟩ =
      ⟨.colon :: .string (some name) :: ts, .between⟩ := by
  rw [List.foldl_append, (Settled.between ts).quoted, List.foldl_cons,
    (Settled.between _).mark (t := .colon) rfl rfl (by decide)]
  exact (Settled.between _).blank (c := ' ') rfl

mutual

/-- The layout of a value at any level is cut into its tokens. -/
theorem lex_value {room : Nat} (level : Nat) (ts : List Token) (v : Json) (hv : v.Printable room) :
    Settled ((prettyChars level v).foldl step ⟨ts, .between⟩) (v.tokens.reverse ++ ts) :=
  match v with
  | .null => settled_name (w := nullChars) (by decide) (List.all_eq_true.1 rfl) rfl ts
  | .bool true => settled_name (w := boolChars true) (by decide) (List.all_eq_true.1 rfl) rfl ts
  | .bool false => settled_name (w := boolChars false) (by decide) (List.all_eq_true.1 rfl) rfl ts
  | .number l =>
    settled_name (chars_ne_nil hv.1) (fun _ hc => isInner_chars hv.1 hc)
      (wordToken_chars hv.1 hv.2) ts
  | .string s => by
    rw [prettyChars, (Settled.between ts).quoted]
    exact .between _
  | .array [] _ => .between _
  | .array (v :: rest) _ => by
    obtain ⟨-, -, hv, hrest⟩ := hv
    rw [prettyChars, Json.tokens, List.append_assoc, List.foldl_append,
      (Settled.between ts).mark_newline (t := .beginArray) rfl rfl (by decide), List.foldl_append,
      lex_items level rest hrest (lex_value (level + 1) _ v hv), List.reverse_cons,
      List.reverse_append, List.append_assoc, List.append_assoc]
    exact .between _
  | .object [] _ => .between _
  | .object ((name, v) :: rest) _ => by
    obtain ⟨-, -, hv, hrest⟩ := hv
    rw [prettyChars, Json.tokens]
    simp only [List.append_assoc]
    rw [← List.append_assoc (quoted name), List.foldl_append,
      (Settled.between ts).mark_newline (t := .beginObject) rfl rfl (by decide), List.foldl_append,
      name_colon, List.foldl_append,
      lex_members level rest hrest (lex_value (level + 1) _ v hv)]
    simp only [List.reverse_cons, List.reverse_append, List.append_assoc, List.singleton_append]
    exact .between _
  | .valueless => absurd hv id

theorem lex_items {room : Nat} {l : Lexer} {ts : List Token} (level : Nat) (vs : List Json)
    (hv : ItemsPrintable room vs) (hl : Settled l ts) :
    (prettyItems level vs).foldl step l = ⟨(itemTokens vs).reverse ++ ts, .between⟩ :=
  match vs with
  | [] => hl.newline_mark rfl rfl (by decide) level
  | v :: rest => by
    rw [prettyItems, itemTokens, List.append_assoc, List.foldl_append,
      hl.mark_newline (t := .comma) rfl rfl (by decide), List.foldl_append,
      lex_items level rest hv.2 (lex_value (level + 1) _ v hv.1), List.reverse_cons,
      List.reverse_append, List.append_assoc, List.append_assoc]
    rfl

theorem lex_members {room : Nat} {l : Lexer} {ts : List Token} (level : Nat)
    (ms : List (String × Json)) (hv : MembersPrintable room ms) (hl : Settled l ts) :
    (prettyMembers level ms).foldl step l = ⟨(memberTokens ms).reverse ++ ts, .between⟩ :=
  match ms with
  | [] => hl.newline_mark rfl rfl (by decide) level
  | (name, v) :: rest => by
    rw [prettyMembers, memberTokens]
    simp only [List.append_assoc]
    rw [← List.append_assoc (quoted name), List.foldl_append,
      hl.mark_newline (t := .comma) rfl rfl (by decide), List.foldl_append, name_colon,
      List.foldl_append, lex_members level rest hv.2 (lex_value (level + 1) _ v hv.1)]
    simp only [List.reverse_cons, List.reverse_append, List.append_assoc, List.cons_append,
      List.nil_append]

end

end Lexer

theorem lex_pretty {room : Nat} {v : Json} (hv : v.Printable room) : lex v.pretty = v.tokens := by
  rw [lex, pretty, String.toList_ofList]
  have h := Lexer.lex_value 0 [] v hv
  rw [List.append_nil] at h
  show (List.foldl Lexer.step ⟨[], .between⟩ _).finish = _
  rw [h.finish, List.reverse_reverse]

end PoolCheck.Json
