import Mathlib.Data.List.Basic

/-! # Wire formats

    Byte formats that decode what they encode, with anything after it left
    over, as structures that carry the proof. The combinators below build
    the tag-length-value formats of serialised records: base-128 varints,
    length-delimited bytes and submessages, tagged fields and tagged unions.

    A repeated field that runs to the end of the input is `decodeAll`. -/

namespace CyberRT.Framework

universe u v

/-! ## Section 1: Varints -/

/-- `n` in base 128, lowest digit first, the high bit set on all digits but
    the last; at most `fuel` digits. -/
def varint : Nat → Nat → List UInt8
  | 0,        _ => []
  | fuel + 1, n =>
    if n < 128 then [UInt8.ofNat n] else UInt8.ofNat (n % 128 + 128) :: varint fuel (n / 128)

/-- The varint at the front of the bytes, and the bytes after it. -/
def unvarint : List UInt8 → Option (Nat × List UInt8)
  | []      => none
  | b :: bs =>
    if b.toNat < 128 then some (b.toNat, bs)
    else (unvarint bs).map fun x => (b.toNat % 128 + 128 * x.1, x.2)

theorem unvarint_varint {fuel n : Nat} (h : n < fuel) (rest : List UInt8) :
    unvarint (varint fuel n ++ rest) = some (n, rest) := by
  induction fuel generalizing n with
  | zero => omega
  | succ fuel ih =>
    unfold varint
    by_cases hn : n < 128
    · have hbyte : (UInt8.ofNat n).toNat = n := by
        rw [UInt8.toNat_ofNat']
        omega
      rw [if_pos hn]
      simp [unvarint, hbyte, hn]
    · have hbyte : (UInt8.ofNat (n % 128 + 128)).toNat = n % 128 + 128 := by
        rw [UInt8.toNat_ofNat']
        omega
      have hrec := ih (n := n / 128) (by omega)
      rw [if_neg hn, List.cons_append, unvarint, hbyte, if_neg (by omega), hrec]
      simp only [Option.map_some, Option.some.injEq, Prod.mk.injEq, and_true]
      omega

/-! ## Section 2: Formats -/

/-- A format for `α`: an encoder, and a decoder that undoes it at the front
    of any bytes. -/
structure Format (α : Type u) where
  encode : α → List UInt8
  decode : List UInt8 → Option (α × List UInt8)
  decode_encode : ∀ a rest, decode (encode a ++ rest) = some (a, rest)

namespace Format

variable {α : Type u} {β : Type v}

/-- A natural number as a varint. -/
def nat : Format Nat where
  encode n := varint (n + 1) n
  decode   := unvarint
  decode_encode n rest := unvarint_varint (Nat.lt_succ_self n) rest

/-- A format for `β` from one for `α`, by a partial inverse. -/
def map (f : Format α) (toRep : β → α) (ofRep : α → Option β)
    (h : ∀ b, ofRep (toRep b) = some b) : Format β where
  encode b  := f.encode (toRep b)
  decode bs := (f.decode bs).bind fun x => (ofRep x.1).map fun b => (b, x.2)
  decode_encode b rest := by simp [f.decode_encode, h]

/-- One value after another. -/
def seq (f : Format α) (g : Format β) : Format (α × β) where
  encode x  := f.encode x.1 ++ g.encode x.2
  decode bs := (f.decode bs).bind fun x => (g.decode x.2).map fun y => ((x.1, y.1), y.2)
  decode_encode x rest := by simp [f.decode_encode, g.decode_encode]

/-- A value after a tag that tells its format. -/
def sigma {κ : Type} {γ : κ → Type} (f : Format κ) (g : ∀ k, Format (γ k)) : Format (Sigma γ) where
  encode x  := f.encode x.1 ++ (g x.1).encode x.2
  decode bs := (f.decode bs).bind fun k => ((g k.1).decode k.2).map fun y => (⟨k.1, y.1⟩, y.2)
  decode_encode x rest := by simp [f.decode_encode, (g x.1).decode_encode]

/-- A field: the tag `tag`, then the value. -/
def field (tag : Nat) (f : Format α) : Format α :=
  (nat.seq f).map (fun a => (tag, a)) (fun x => if x.1 = tag then some x.2 else none)
    (fun _ => if_pos rfl)

/-- Bytes after their length. -/
def bytes : Format (List UInt8) where
  encode bs := nat.encode bs.length ++ bs
  decode bs := (nat.decode bs).bind fun x =>
    if x.1 ≤ x.2.length then some (x.2.take x.1, x.2.drop x.1) else none
  decode_encode bs rest := by simp [nat.decode_encode]

/-- A submessage after the length of its encoding. -/
def delimited (f : Format α) : Format α :=
  bytes.map f.encode (fun bs => (f.decode bs).bind fun x => if x.2 = [] then some x.1 else none)
    (fun a => by
      have h := f.decode_encode a []
      rw [List.append_nil] at h
      simp [h])

theorem encode_field_ne_nil (tag : Nat) (f : Format α) (a : α) : (field tag f).encode a ≠ [] := by
  intro h
  have htag : varint (tag + 1) tag ++ f.encode a = [] := h
  have htag := (List.append_eq_nil_iff.mp htag).1
  unfold varint at htag
  by_cases hlt : tag < 128
  · rw [if_pos hlt] at htag
    cases htag
  · rw [if_neg hlt] at htag
    cases htag

/-! ## Section 3: Whole inputs -/

/-- The value encoded by the whole input. -/
def decodeWhole (f : Format α) (bs : List UInt8) : Option α :=
  (f.decode bs).bind fun x => if x.2 = [] then some x.1 else none

theorem decodeWhole_encode (f : Format α) (a : α) : f.decodeWhole (f.encode a) = some a := by
  have h := f.decode_encode a []
  rw [List.append_nil] at h
  simp [decodeWhole, h]

/-- Values one after another up to the end of the input, at most `fuel`. -/
def decodeAll (f : Format α) : Nat → List UInt8 → Option (List α)
  | _,        []      => some []
  | 0,        _ :: _  => none
  | fuel + 1, b :: bs => (f.decode (b :: bs)).bind fun x => (decodeAll f fuel x.2).map (x.1 :: ·)

theorem decodeAll_encode (f : Format α) (hne : ∀ a, f.encode a ≠ []) (as : List α) {fuel : Nat}
    (h : as.length ≤ fuel) : f.decodeAll fuel (as.flatMap f.encode) = some as := by
  induction as generalizing fuel with
  | nil => unfold decodeAll; rfl
  | cons a as ih =>
    obtain ⟨b, bs, hb⟩ := List.exists_cons_of_ne_nil (hne a)
    have hdecode := f.decode_encode a (as.flatMap f.encode)
    cases fuel with
    | zero => simp at h
    | succ fuel =>
      rw [List.length_cons] at h
      rw [hb, List.cons_append] at hdecode
      rw [List.flatMap_cons, hb, List.cons_append, decodeAll, hdecode]
      simp [ih (Nat.le_of_succ_le_succ h)]

theorem length_le_flatMap_encode (f : Format α) (hne : ∀ a, f.encode a ≠ []) (as : List α) :
    as.length ≤ (as.flatMap f.encode).length := by
  induction as with
  | nil => simp
  | cons a as ih =>
    have hpos := List.length_pos_iff.mpr (hne a)
    simp only [List.flatMap_cons, List.length_cons, List.length_append]
    omega

end Format

end CyberRT.Framework
