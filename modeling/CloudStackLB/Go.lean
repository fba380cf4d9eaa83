import Mathlib.Data.List.Perm.Basic
import Mathlib.Data.List.Infix

/-! # Go library behaviour used by the provider

The parts of the Go standard library and runtime that `loadbalancer.go` relies on and whose
behaviour the proofs need: `strings.Split` on a one-character separator and the comma join
CloudStack applies to a list parameter, `strings.ToLower` and `strings.TrimSpace`, the decimal
text of `strconv.Itoa` / `%d` and its inverse `strconv.ParseInt(s, 10, 32)`, and the randomised
order of `for ... range` over a map.
-/

namespace CloudStackLB

/-- Results of fallible code compare by constructor and payload, so that runs can be decided. -/
instance instDecidableEqExcept {ε α : Type} [DecidableEq ε] [DecidableEq α] : DecidableEq (Except ε α)
  | .error x, .error y => decidable_of_iff (x = y) (by simp)
  | .ok x, .ok y => decidable_of_iff (x = y) (by simp)
  | .error _, .ok _ => isFalse (by simp)
  | .ok _, .error _ => isFalse (by simp)

/-! ### `strings.Split` and the comma join -/

/-- `strings.Split(s, sep)` for a one-character separator `sep`: the pieces between the
separators, an empty string giving one empty piece. -/
def stringsSplit (s : String) (sep : Char) : List String := (s.data.splitOn sep).map String.mk

theorem stringsSplit_ne_nil (s : String) (sep : Char) : stringsSplit s sep ≠ [] := by
  simp [stringsSplit, List.splitOn, List.splitOnP_ne_nil]

/-- How CloudStack stores a list parameter such as `cidrlist`: the items joined by `,`. -/
def joinComma (items : List String) : String := ⟨List.intercalate [','] (items.map String.data)⟩

theorem stringsSplit_joinComma (items : List String) (hne : items ≠ [])
    (h : ∀ s ∈ items, ',' ∉ s.data) : stringsSplit (joinComma items) ',' = items := by
  have key : ([','].intercalate (items.map String.data)).splitOn ',' = items.map String.data :=
    List.splitOn_intercalate _ ',' (by simpa using h) (by simpa using hne)
  simp only [stringsSplit, joinComma, key, List.map_map]
  exact (List.map_congr_left (fun s _ => rfl)).trans (List.map_id items)

/-- `strings.ToLower`, on the ASCII letters that Kubernetes and CloudStack names are made of. -/
def stringsToLower (s : String) : String := ⟨s.data.map Char.toLower⟩

/-- `strings.TrimSpace`: the text without leading and trailing white space. -/
def stringsTrimSpace (s : String) : String :=
  ⟨((s.data.dropWhile Char.isWhitespace).reverse.dropWhile Char.isWhitespace).reverse⟩

/-! ### Decimal text: `strconv.Itoa` and `strconv.ParseInt(s, 10, 32)` -/

/-- The character of a decimal digit. -/
def digitChar (d : Nat) : Char := Char.ofNat (48 + d)

/-- Decimal digits of `n`, least significant first; `fuel` bounds how many. -/
def digitsRev : Nat → Nat → List Char
  | 0, _ => []
  | fuel + 1, n => digitChar (n % 10) :: if n < 10 then [] else digitsRev fuel (n / 10)

/-- The decimal digits of `n`, most significant first. -/
def decimal (n : Nat) : List Char := (digitsRev (n + 1) n).reverse

/-- `strconv.Itoa` and the `%d` verb: a minus sign for negative values, then the digits. -/
def itoa (i : Int) : String := ⟨(if i < 0 then ['-'] else []) ++ decimal i.natAbs⟩

/-- The value of a run of decimal digits read most significant first, from `acc`. -/
def digitsValue : Nat → List Char → Option Nat
  | acc, [] => some acc
  | acc, c :: cs => if c.isDigit then digitsValue (10 * acc + (c.toNat - 48)) cs else none

/-- The optional leading sign `strconv.ParseInt` accepts: negative, and the rest. -/
def splitSign : List Char → Bool × List Char
  | '-' :: r => (true, r)
  | '+' :: r => (false, r)
  | r => (false, r)

/-- The error texts of `strconv.ParseInt`. -/
def parseIntError (s reason : String) : String :=
  "strconv.ParseInt: parsing " ++ "\"" ++ s ++ "\": " ++ reason

/-- `strconv.ParseInt(s, 10, 32)`: an optional sign, at least one digit, a value in int32 range. -/
def parseInt32 (s : String) : Except String Int :=
  match (splitSign s.data).2, digitsValue 0 (splitSign s.data).2 with
  | [], _ => .error (parseIntError s "invalid syntax")
  | _, none => .error (parseIntError s "invalid syntax")
  | _ :: _, some n =>
    let v : Int := if (splitSign s.data).1 then -(n : Int) else n
    if -2147483648 ≤ v ∧ v ≤ 2147483647 then .ok v else .error (parseIntError s "value out of range")

theorem digitChar_spec : ∀ d < 10, (digitChar d).isDigit = true ∧ (digitChar d).toNat - 48 = d := by
  decide

theorem digitsValue_append (acc : Nat) (xs ys : List Char) :
    digitsValue acc (xs ++ ys) = (digitsValue acc xs).bind (digitsValue · ys) := by
  induction xs generalizing acc with
  | nil => rfl
  | cons c cs ih => by_cases h : c.isDigit <;> simp [digitsValue, h, ih]

theorem digitsRev_isDigit (fuel n : Nat) : ∀ c ∈ digitsRev fuel n, c.isDigit = true := by
  induction fuel generalizing n with
  | zero => simp [digitsRev]
  | succ fuel ih =>
    intro c hc
    simp only [digitsRev, List.mem_cons] at hc
    rcases hc with rfl | hc
    · exact (digitChar_spec _ (Nat.mod_lt n (by decide))).1
    · split at hc
      · simp at hc
      · exact ih _ c hc

theorem digitsValue_digitsRev (fuel n : Nat) (h : n < fuel) :
    digitsValue 0 (digitsRev fuel n).reverse = some n := by
  induction fuel generalizing n with
  | zero => omega
  | succ fuel ih =>
    have hd := digitChar_spec (n % 10) (Nat.mod_lt n (by decide))
    by_cases hn : n < 10
    · rw [Nat.mod_eq_of_lt hn] at hd
      simp [digitsRev, hn, digitsValue, Nat.mod_eq_of_lt hn, hd.1, hd.2]
    · have step : digitsValue (n / 10) [digitChar (n % 10)] = some n := by
        simp only [digitsValue, hd.1, if_true, hd.2]
        congr 1
        omega
      simp only [digitsRev, hn, if_false, List.reverse_cons, digitsValue_append,
        ih (n / 10) (by omega), Option.some_bind, step]

theorem decimal_ne_nil (n : Nat) : decimal n ≠ [] := by
  simp [decimal, digitsRev]

theorem splitSign_decimal (n : Nat) : splitSign (decimal n) = (false, decimal n) := by
  obtain ⟨c, r, hcr⟩ := List.exists_cons_of_ne_nil (decimal_ne_nil n)
  have hmem : c ∈ decimal n := hcr ▸ List.mem_cons_self c r
  have hc : c.isDigit = true := digitsRev_isDigit (n + 1) n c (List.mem_reverse.mp hmem)
  have h1 : c ≠ '-' := by rintro rfl; exact absurd hc (by decide)
  have h2 : c ≠ '+' := by rintro rfl; exact absurd hc (by decide)
  rw [hcr]
  unfold splitSign
  split <;> simp_all

/-- Reading back the decimal text of an int32 value gives the value. -/
theorem parseInt32_itoa (i : Int) (lo : -2147483648 ≤ i) (hi : i ≤ 2147483647) :
    parseInt32 (itoa i) = .ok i := by
  obtain ⟨c, r, hcr⟩ := List.exists_cons_of_ne_nil (decimal_ne_nil i.natAbs)
  have hv : digitsValue 0 (decimal i.natAbs) = some i.natAbs :=
    digitsValue_digitsRev _ _ (Nat.lt_succ_self _)
  by_cases hneg : i < 0
  · have hs : splitSign (itoa i).data = (true, decimal i.natAbs) := by simp [itoa, hneg, splitSign]
    simp only [parseInt32, hs]
    rw [hv, hcr]
    simp only [if_true]
    rw [if_pos (by omega)]
    congr 1
    omega
  · have hs : splitSign (itoa i).data = (false, decimal i.natAbs) := by
      simpa [itoa, hneg] using splitSign_decimal i.natAbs
    simp only [parseInt32, hs]
    rw [hv, hcr]
    simp only [Bool.false_eq_true, if_false]
    rw [if_pos (by omega)]
    congr 1
    omega

/-! ### The order of `for ... range` over a map -/

/-- Go randomises the order in which a `for ... range` visits a map: the `k`-th such loop of a
run, over a map of `n` entries, visits them in the order of the positions `pick k n`. -/
structure Schedule where
  pick : Nat → Nat → List Nat
  pick_perm : ∀ k n, (pick k n).Perm (List.range n)

/-- The entries of a map in the order the `k`-th loop over it visits them. -/
def Schedule.visit {α : Type} (s : Schedule) (k : Nat) (l : List α) : List α :=
  (s.pick k l.length).filterMap fun i => l[i]?

/-- The schedule that visits every map in insertion order. -/
def Schedule.inOrder : Schedule := ⟨fun _ n => List.range n, fun _ _ => List.Perm.refl _⟩

/-- The schedule that visits every map in reverse insertion order. -/
def Schedule.reversed : Schedule := ⟨fun _ n => (List.range n).reverse, fun _ _ => List.reverse_perm _⟩

theorem filterMap_getElem?_range {α : Type} (l : List α) :
    (List.range l.length).filterMap (fun i => l[i]?) = l := by
  induction l with
  | nil => rfl
  | cons a t ih => simp [List.range_succ_eq_map, List.filterMap_map, Function.comp_def, ih]

theorem Schedule.visit_perm {α : Type} (s : Schedule) (k : Nat) (l : List α) : (s.visit k l).Perm l := by
  have h := (s.pick_perm k l.length).filterMap (fun i => l[i]?)
  rwa [filterMap_getElem?_range] at h

end CloudStackLB
