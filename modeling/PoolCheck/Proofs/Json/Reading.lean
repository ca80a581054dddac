import PoolCheck.Json.Reader
import PoolCheck.Proofs.Json.Lexing

/-!
# Printed values are read back

The reader puts the tokens of a value together again. Inside open containers the value is
delivered to the innermost one, so one statement holds at every depth.
-/

set_option autoImplicit false

namespace PoolCheck.Json

variable {room : Nat} {frames : List Frame}

theorem step_valueOrEnd {t : Token} (h : t ≠ .endArray) :
    step (.expecting .valueOrEnd frames) t = step (.expecting .value frames) t := by
  cases t <;> first | rfl | exact absurd rfl h

theorem first_token (v : Json) : ∃ t ts, v.tokens = t :: ts ∧ t ≠ .endArray := by
  cases v with
  | array items closed => cases items <;> exact ⟨_, _, rfl, by simp⟩
  | object members closed =>
    cases members with
    | nil => exact ⟨_, _, rfl, by simp⟩
    | cons m rest => exact ⟨_, _, rfl, by simp⟩
  | _ => exact ⟨_, _, rfl, by simp⟩

theorem foldl_valueOrEnd (v : Json) :
    v.tokens.foldl step (.expecting .valueOrEnd frames) =
      v.tokens.foldl step (.expecting .value frames) := by
  obtain ⟨t, ts, hv, ht⟩ := first_token v
  rw [hv, List.foldl_cons, List.foldl_cons, step_valueOrEnd ht]

theorem leave_of_room (hr : 0 < room) (h : frames.length + room ≤ maxOpen) (v : Json) :
    leave v frames = deliver v frames := by
  rw [leave, if_pos (by omega)]

mutual

/-- The tokens of a value deliver that value. -/
theorem read_value (v : Json) (frames : List Frame) (room : Nat) (hv : v.Printable room)
    (h : frames.length + room ≤ maxOpen) :
    v.tokens.foldl step (.expecting .value frames) = deliver v frames :=
  match v with
  | .null => rfl
  | .bool _ => rfl
  | .number _ => rfl
  | .string _ => rfl
  | .array [] _ => by
    obtain ⟨rfl, hr, -⟩ := hv
    exact leave_of_room hr h _
  | .array (v :: rest) _ => by
    obtain ⟨rfl, hr, hv, hrest⟩ := hv
    have hroom : (Frame.array [] :: frames).length + (room - 1) ≤ maxOpen := by
      rw [List.length_cons]
      omega
    rw [tokens, List.foldl_cons, List.foldl_append]
    show (itemTokens rest).foldl step (v.tokens.foldl step (.expecting .valueOrEnd _)) = _
    rw [foldl_valueOrEnd, read_value v _ _ hv hroom]
    exact (read_items rest [v] frames _ hrest hroom).trans (leave_of_room hr h _)
  | .object [] _ => by
    obtain ⟨rfl, hr, -⟩ := hv
    exact leave_of_room hr h _
  | .object ((name, v) :: rest) _ => by
    obtain ⟨rfl, hr, hv, hrest⟩ := hv
    have hroom : (Frame.member [] name :: frames).length + (room - 1) ≤ maxOpen := by
      rw [List.length_cons]
      omega
    rw [tokens, List.foldl_cons, List.foldl_cons, List.foldl_cons, List.foldl_append]
    show (memberTokens rest).foldl step (v.tokens.foldl step
      (.expecting .value (.member [] name :: frames))) = _
    rw [read_value v _ _ hv hroom]
    exact (read_members rest [(name, v)] frames _ hrest hroom).trans (leave_of_room hr h _)
  | .valueless => absurd hv id

theorem read_items (vs seen : List Json) (frames : List Frame) (room : Nat)
    (hv : ItemsPrintable room vs) (h : frames.length + 1 + room ≤ maxOpen) :
    (itemTokens vs).foldl step (.expecting .separator (.array seen :: frames)) =
      leave (.array (seen.reverse ++ vs) true) frames :=
  match vs with
  | [] => by
    rw [List.append_nil]
    rfl
  | v :: rest => by
    rw [itemTokens, List.foldl_cons, List.foldl_append]
    show (itemTokens rest).foldl step (v.tokens.foldl step
      (.expecting .value (.array seen :: frames))) = _
    rw [read_value v (.array seen :: frames) _ hv.1 h, deliver,
      read_items rest (v :: seen) frames room hv.2 h,
      List.reverse_cons, List.append_assoc]
    rfl

theorem read_members (ms seen : List (String × Json)) (frames : List Frame) (room : Nat)
    (hv : MembersPrintable room ms) (h : frames.length + 1 + room ≤ maxOpen) :
    (memberTokens ms).foldl step (.expecting .separator (.object seen :: frames)) =
      leave (.object (seen.reverse ++ ms) true) frames :=
  match ms with
  | [] => by
    rw [List.append_nil]
    rfl
  | (name, v) :: rest => by
    rw [memberTokens, List.foldl_cons, List.foldl_cons, List.foldl_cons, List.foldl_append]
    show (memberTokens rest).foldl step (v.tokens.foldl step
      (.expecting .value (.member seen name :: frames))) = _
    rw [read_value v (.member seen name :: frames) _ hv.1 h, deliver,
      read_members rest ((name, v) :: seen) frames room hv.2 h, List.reverse_cons,
      List.append_assoc]
    rfl

end

theorem read_pretty {v : Json} (hv : v.Printable maxOpen) : read v.pretty = ⟨some v, true⟩ := by
  rw [read, lex_pretty hv, read_value v [] maxOpen hv (Nat.le_of_eq (Nat.zero_add _))]
  rfl

end PoolCheck.Json
