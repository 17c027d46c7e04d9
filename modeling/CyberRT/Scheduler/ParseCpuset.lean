import Mathlib.Data.Nat.Init
import Mathlib.Data.List.TakeWhile
import CyberRT.Framework.Getline

/-! # The cpuset parser

    `Scheduler::ParseCpuset` cuts a string at its commas and every piece at
    its dashes: a piece with no dash is one number, a piece with one dash is
    a range, all others end the program. A number is what `std::stoi` makes
    of it, with its two exceptions.

    Shown for every list of numbers and ranges: the string they are joined
    to gives the numbers and the expansions of the ranges, in order, behind
    what the vector held. -/

namespace CyberRT.Scheduler.ParseCpuset

open CyberRT.Framework

/-! ## Section 1: The parser -/

def intMax : Int := 2147483647

def intMin : Int := -2147483648

/-- How the parser stops: the exceptions of `std::stoi`, `exit` behind a
    logged text, and the increment of a loop variable that is `INT_MAX`,
    which the language leaves undefined. -/
inductive CpusetError where
  | invalidArgument
  | outOfRange
  | exit (text : String) (status : Nat)
  | overflow
  deriving DecidableEq

/-- `isspace` in the locale "C". -/
def isspace (c : Char) : Bool :=
  c == ' ' || c == '\t' || c == '\n' || c == '\x0b' || c == '\x0c' || c == '\r'

/-- The sign in front of a number, and what stands behind it. -/
def sign : List Char → Bool × List Char
  | '-' :: str => (true, str)
  | '+' :: str => (false, str)
  | str        => (false, str)

/-- `std::stoi`: blanks, a sign, digits; what stands behind the digits is
    ignored. -/
def stoi (str : List Char) : Except CpusetError Int :=
  let (minus, rest) := sign (str.dropWhile isspace)
  let digits := rest.takeWhile Char.isDigit
  if digits = [] then .error .invalidArgument
  else
    let magnitude : Int := Nat.ofDigitChars 10 digits 0
    let value := if minus then -magnitude else magnitude
    if value < intMin ∨ intMax < value then .error .outOfRange else .ok value

/-- `for (int i = …, e = …; i <= e; i++) cpuset->push_back(i)`. -/
def pushRange (i e : Int) (cpuset : List Int) : Except CpusetError (List Int) :=
  if i ≤ e then
    -- `i++` behind the last possible value
    if i = intMax then .error .overflow
    else pushRange (i + 1) e (cpuset ++ [i])
  else .ok cpuset
termination_by (e + 1 - i).toNat

/-- One pass of the loop over the lines. -/
def parseLine (cpuset : List Int) (line : List Char) : Except CpusetError (List Int) :=
  match getlines '-' line with
  | [n] => do
    let v ← stoi n
    return cpuset ++ [v]
  | [first, last] => do
    let i ← stoi first
    let e ← stoi last
    pushRange i e cpuset
  -- an empty line, or more than one dash
  | _ => .error (.exit "Parsing cpuset format error." 1)

def parseCpuset (str : String) (cpuset : List Int) : Except CpusetError (List Int) :=
  (getlines ',' str.toList).foldlM parseLine cpuset

/-! ## Section 2: Items -/

/-- A decimal number, as its digits. -/
structure Decimal where
  digits  : List Char
  ne_nil  : digits ≠ []
  isDigit : ∀ c ∈ digits, c.isDigit = true

def Decimal.value (n : Decimal) : Int := Nat.ofDigitChars 10 n.digits 0

/-- What a cpuset is made of. The numbers are values of an `int`, and the
    upper end of a range lies below its limit. -/
inductive Item where
  | number (n : Decimal) (le_max : n.value ≤ intMax)
  | range (a b : Decimal) (ordered : a.value ≤ b.value) (below : b.value < intMax)

def Item.text : Item → List Char
  | .number n _    => n.digits
  | .range a b _ _ => a.digits ++ '-' :: b.digits

/-- All numbers from `a` to `b`, both included. -/
def interval (a b : Int) : List Int :=
  (List.range (b + 1 - a).toNat).map fun (k : Nat) => a + (k : Int)

def Item.expansion : Item → List Int
  | .number n _    => [n.value]
  | .range a b _ _ => interval a.value b.value

/-- The items joined by commas. -/
def cpusetText (items : List Item) : String :=
  String.ofList ([','].intercalate (items.map Item.text))

/-! ## Section 3: Numbers -/

theorem Decimal.value_nonneg (n : Decimal) : 0 ≤ n.value := Int.natCast_nonneg _

/-- No digit is a blank, a sign or a comma. -/
theorem isDigit_not_special {c : Char} (hc : c.isDigit = true) :
    isspace c = false ∧ c ≠ '-' ∧ c ≠ '+' ∧ c ≠ ',' := by
  have hne : ∀ {x : Char}, x.isDigit = false → c ≠ x := fun hx h => by simp [← h, hc] at hx
  refine ⟨?_, hne rfl, hne rfl, hne rfl⟩
  simp only [isspace, Bool.or_eq_false_iff, beq_eq_false_iff_ne]
  exact ⟨⟨⟨⟨⟨hne rfl, hne rfl⟩, hne rfl⟩, hne rfl⟩, hne rfl⟩, hne rfl⟩

theorem Decimal.dash_not_mem (n : Decimal) : '-' ∉ n.digits :=
  fun h => (isDigit_not_special (n.isDigit _ h)).2.1 rfl

theorem Decimal.comma_not_mem (n : Decimal) : ',' ∉ n.digits :=
  fun h => (isDigit_not_special (n.isDigit _ h)).2.2.2 rfl

theorem sign_of_digit {c : Char} {str : List Char} (hc : c.isDigit = true) :
    sign (c :: str) = (false, c :: str) := by
  obtain ⟨_, hminus, hplus, _⟩ := isDigit_not_special hc
  -- a digit is neither of the two signs
  unfold sign
  split
  · rename_i h; exact absurd (List.cons.inj h).1 hminus
  · rename_i h; exact absurd (List.cons.inj h).1 hplus
  · rfl

theorem Decimal.dropWhile_isspace (n : Decimal) : n.digits.dropWhile isspace = n.digits := by
  obtain ⟨c, rest, hcons⟩ := List.exists_cons_of_ne_nil n.ne_nil
  have hc := n.isDigit c (hcons ▸ List.mem_cons_self)
  rw [hcons]
  exact List.dropWhile_cons_of_neg (by simp [(isDigit_not_special hc).1])

theorem Decimal.sign_digits (n : Decimal) : sign n.digits = (false, n.digits) := by
  obtain ⟨c, rest, hcons⟩ := List.exists_cons_of_ne_nil n.ne_nil
  have hc := n.isDigit c (hcons ▸ List.mem_cons_self)
  rw [hcons]
  exact sign_of_digit hc

theorem Decimal.takeWhile_isDigit (n : Decimal) : n.digits.takeWhile Char.isDigit = n.digits :=
  List.takeWhile_eq_self_iff.mpr n.isDigit

/-- `std::stoi` gives the value of a number that fits. -/
theorem stoi_digits (n : Decimal) (hmax : n.value ≤ intMax) : stoi n.digits = .ok n.value := by
  have hnonneg := n.value_nonneg
  have hfits : ¬ (n.value < intMin ∨ intMax < n.value) := by
    unfold intMin intMax at *
    omega
  simp only [stoi, n.dropWhile_isspace, n.sign_digits, n.takeWhile_isDigit]
  rw [if_neg n.ne_nil]
  exact if_neg hfits

/-! ## Section 4: Ranges -/

theorem interval_nil {a b : Int} (h : ¬ a ≤ b) : interval a b = [] := by
  have hlength : (b + 1 - a).toNat = 0 := by omega
  rw [interval, hlength, List.range_zero, List.map_nil]

theorem interval_cons {a b : Int} (h : a ≤ b) : interval a b = a :: interval (a + 1) b := by
  have hlength : (b + 1 - a).toNat = (b + 1 - (a + 1)).toNat + 1 := by omega
  rw [interval, hlength, List.range_succ_eq_map, interval, List.map_cons, List.map_map]
  congr 1
  · simp
  · refine List.map_congr_left fun k _ => ?_
    simp only [Function.comp_apply, Nat.succ_eq_add_one]
    omega

/-- The loop pushes the whole interval, if it never has to step over the
    limit. -/
theorem pushRange_interval {i e : Int} (he : e < intMax) (cpuset : List Int) :
    pushRange i e cpuset = .ok (cpuset ++ interval i e) := by
  fun_induction pushRange i e cpuset with
  | case1 cpuset hle => omega
  | case2 i cpuset hle hmax ih =>
    rw [ih, interval_cons hle, List.append_assoc, List.singleton_append]
  | case3 i cpuset hle => rw [interval_nil hle, List.append_nil]

/-! ## Section 5: Lines -/

/-- A line that is an item gives the item's expansion. -/
theorem parseLine_item (item : Item) (cpuset : List Int) :
    parseLine cpuset item.text = .ok (cpuset ++ item.expansion) := by
  cases item with
  | number n hmax =>
    have hpieces : getlines '-' n.digits = [n.digits] := getlines_single n.dash_not_mem n.ne_nil
    simp only [parseLine, Item.text, hpieces, stoi_digits n hmax]
    rfl
  | range a b hordered hbelow =>
    -- one dash, and none within the numbers
    have hpieces : getlines '-' (a.digits ++ '-' :: b.digits) = [a.digits, b.digits] := by
      rw [getlines_line a.dash_not_mem, getlines_single b.dash_not_mem b.ne_nil]
    have ha := stoi_digits a (by omega)
    have hb := stoi_digits b (by omega)
    simp only [parseLine, Item.text, hpieces, ha, hb]
    exact pushRange_interval hbelow cpuset

theorem Item.text_ne_nil (item : Item) : item.text ≠ [] := by
  cases item with
  | number n _    => exact n.ne_nil
  | range a b _ _ => simp [Item.text]

theorem Item.comma_not_mem (item : Item) : ',' ∉ item.text := by
  cases item with
  | number n _    => exact n.comma_not_mem
  | range a b _ _ => simp [Item.text, a.comma_not_mem, b.comma_not_mem]

theorem foldlM_items (items : List Item) (cpuset : List Int) :
    (items.map Item.text).foldlM parseLine cpuset =
      .ok (cpuset ++ items.flatMap Item.expansion) := by
  induction items generalizing cpuset with
  | nil => simp [pure, Except.pure]
  | cons item items ih =>
    rw [List.map_cons, List.foldlM_cons, parseLine_item]
    change (items.map Item.text).foldlM parseLine (cpuset ++ item.expansion) = _
    rw [ih, List.flatMap_cons, List.append_assoc]

/-! ## Section 6: Cpusets -/

/-- `ParseCpuset` appends the numbers and the expansions of the ranges, in
    order, to what the vector held. -/
theorem parseCpuset_items (items : List Item) (cpuset : List Int) :
    parseCpuset (cpusetText items) cpuset =
      .ok (cpuset ++ items.flatMap Item.expansion) := by
  have hcomma : ∀ l ∈ items.map Item.text, ',' ∉ l := by
    intro l hl
    obtain ⟨item, _, rfl⟩ := List.mem_map.mp hl
    exact item.comma_not_mem
  have hne : [] ∉ items.map Item.text := by
    intro h
    obtain ⟨item, _, hitem⟩ := List.mem_map.mp h
    exact item.text_ne_nil hitem
  have hlines : getlines ',' (cpusetText items).toList = items.map Item.text := by
    rw [cpusetText, String.toList_ofList, getlines_intercalate hcomma hne]
  rw [parseCpuset, hlines, foldlM_items]

example :
    let zero  : Decimal := ⟨['0'], by decide, List.forall_mem_singleton.mpr rfl⟩
    let three : Decimal := ⟨['3'], by decide, List.forall_mem_singleton.mpr rfl⟩
    let seven : Decimal := ⟨['7'], by decide, List.forall_mem_singleton.mpr rfl⟩
    let items : List Item :=
      [.range zero three (by decide) (by decide), .number seven (by decide)]
    cpusetText items = "0-3,7" ∧ items.flatMap Item.expansion = [0, 1, 2, 3, 7] := by
  decide

end CyberRT.Scheduler.ParseCpuset
