import Mathlib.Data.List.Basic

/-! # Elements with keys in a family of queues

    Queues `queue p`, one for each place `p`, whose elements have keys.
    `Absent` says that no element with the key is queued, `OnlyAt` that one
    element alone is, once, and where. An insertion leads from the first to
    the second, and the removal of the first element with the key back. -/

namespace CyberRT.Framework

/-! ## Section 1: Lists -/

theorem filter_eraseP_self {α : Type} (p : α → Bool) (l : List α) :
    (l.eraseP p).filter p = (l.filter p).tail := by
  induction l with
  | nil => rfl
  | cons x l ih =>
    by_cases hx : p x = true
    · rw [List.eraseP_cons_of_pos hx, List.filter_cons_of_pos hx]
      rfl
    · rw [List.eraseP_cons_of_neg hx, List.filter_cons_of_neg hx, List.filter_cons_of_neg hx, ih]

theorem filter_eraseP_of_disjoint {α : Type} {p q : α → Bool} (h : ∀ x, p x = true → q x = false)
    (l : List α) : (l.eraseP p).filter q = l.filter q := by
  induction l with
  | nil => rfl
  | cons x l ih =>
    by_cases hx : p x = true
    · rw [List.eraseP_cons_of_pos hx, List.filter_cons_of_neg (by simp [h x hx])]
    · rw [List.eraseP_cons_of_neg hx, List.filter_cons, List.filter_cons, ih]

theorem filter_insert_of_neg {α : Type} {q : α → Bool} {x : α} (h : q x = false)
    (l₁ l₂ : List α) : (l₁ ++ x :: l₂).filter q = (l₁ ++ l₂).filter q := by
  rw [List.filter_append, List.filter_cons, h, List.filter_append]
  rfl

/-! ## Section 2: Placement -/

variable {P R K : Type} [DecidableEq K]

/-- The elements of a list that have the key `k`. -/
def withKey (key : R → K) (k : K) (l : List R) : List R :=
  l.filter fun x => key x = k

/-- No element with the key `k` is in a queue. -/
def Absent (key : R → K) (queue : P → List R) (k : K) : Prop :=
  ∀ p, withKey key k (queue p) = []

/-- Of all elements with its key `r` alone is in a queue: once, in that of
    the place `p`. -/
structure OnlyAt (key : R → K) (queue : P → List R) (r : R) (p : P) : Prop where
  self   : withKey key (key r) (queue p) = [r]
  others : ∀ q, q ≠ p → withKey key (key r) (queue q) = []

section placement
variable {key : R → K} {queue queue' : P → List R} {k : K} {r : R} {p : P}

theorem mem_withKey {l : List R} : r ∈ withKey key k l ↔ r ∈ l ∧ key r = k := by
  rw [withKey, List.mem_filter, decide_eq_true_iff]

theorem Absent.not_mem (h : Absent key queue (key r)) (p : P) : r ∉ queue p := by
  intro hmem
  have hkey : r ∈ withKey key (key r) (queue p) := mem_withKey.mpr ⟨hmem, rfl⟩
  rw [h p] at hkey
  cases hkey

theorem OnlyAt.mem_iff (h : OnlyAt key queue r p) {q : P} : r ∈ queue q ↔ q = p := by
  constructor
  · intro hmem
    by_contra hq
    have hkey : r ∈ withKey key (key r) (queue q) := mem_withKey.mpr ⟨hmem, rfl⟩
    rw [h.others q hq] at hkey
    cases hkey
  · intro hq
    have hkey : r ∈ withKey key (key r) (queue p) := by
      rw [h.self]
      exact List.mem_singleton_self r
    rw [hq]
    exact (mem_withKey.mp hkey).1

/-- **Frame**: the elements with the key stay where they are. -/
theorem Absent.frame (h : Absent key queue k)
    (hsame : ∀ q, withKey key k (queue' q) = withKey key k (queue q)) : Absent key queue' k :=
  fun q => (hsame q).trans (h q)

theorem OnlyAt.frame (h : OnlyAt key queue r p)
    (hsame : ∀ q, withKey key (key r) (queue' q) = withKey key (key r) (queue q)) :
    OnlyAt key queue' r p :=
  ⟨(hsame p).trans h.self, fun q hq => (hsame q).trans (h.others q hq)⟩

/-! ## Section 3: Insertion and removal -/

/-- `queue'` is `queue` with `r` inserted into the queue of `p`. -/
structure Inserts (queue queue' : P → List R) (r : R) (p : P) : Prop where
  self   : ∃ l₁ l₂, queue p = l₁ ++ l₂ ∧ queue' p = l₁ ++ r :: l₂
  others : ∀ q, q ≠ p → queue' q = queue q

theorem Inserts.withKey_of_ne (h : Inserts queue queue' r p) (hk : key r ≠ k) (q : P) :
    withKey key k (queue' q) = withKey key k (queue q) := by
  by_cases hq : q = p
  · obtain ⟨l₁, l₂, hold, hnew⟩ := h.self
    subst hq
    rw [hold, hnew]
    exact filter_insert_of_neg (q := fun x => key x = k) (decide_eq_false hk) l₁ l₂
  · rw [h.others q hq]

/-- **Insertion** of an element whose key is absent. -/
theorem Absent.insert (ha : Absent key queue (key r)) (h : Inserts queue queue' r p) :
    OnlyAt key queue' r p := by
  refine ⟨?_, ?_⟩
  · obtain ⟨l₁, l₂, hold, hnew⟩ := h.self
    have hparts : withKey key (key r) (l₁ ++ l₂) = [] := by
      rw [← hold]
      exact ha p
    rw [withKey, List.filter_append, List.append_eq_nil_iff] at hparts
    rw [hnew, withKey, List.filter_append, List.filter_cons, hparts.1, hparts.2, decide_eq_true rfl]
    rfl
  · intro q hq
    rw [h.others q hq]
    exact ha q

/-- `queue'` is `queue` without the first element of `p` that has the key
    `k`. -/
structure Erases (key : R → K) (queue queue' : P → List R) (k : K) (p : P) : Prop where
  self   : queue' p = (queue p).eraseP fun x => key x = k
  others : ∀ q, q ≠ p → queue' q = queue q

theorem Erases.withKey_of_ne {k' : K} (h : Erases key queue queue' k p) (hk : k' ≠ k) (q : P) :
    withKey key k' (queue' q) = withKey key k' (queue q) := by
  by_cases hq : q = p
  · rw [hq, h.self]
    apply filter_eraseP_of_disjoint
    intro x hx
    rw [decide_eq_true_iff] at hx
    rw [hx]
    exact decide_eq_false hk.symm
  · rw [h.others q hq]

/-- **Removal** of the only element with the key. -/
theorem OnlyAt.erase (ho : OnlyAt key queue r p) (h : Erases key queue queue' (key r) p) :
    Absent key queue' (key r) := by
  intro q
  by_cases hq : q = p
  · have hself := ho.self
    rw [withKey] at hself
    rw [hq, h.self, withKey, filter_eraseP_self, hself]
    rfl
  · rw [h.others q hq]
    exact ho.others q hq

/-- The first element with the key is the only one. -/
theorem OnlyAt.find? (h : OnlyAt key queue r p) :
    (queue p).find? (fun x => key x = key r) = some r := by
  have hself := h.self
  rw [withKey] at hself
  rw [← List.head?_filter, hself]
  rfl

end placement

end CyberRT.Framework
