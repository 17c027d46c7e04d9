import CyberRT.Framework.Buffer
import CyberRT.Transport.MessageInfo

/-! # The hashes of a MessageInfo

    An `Identity` keeps the hash of its bytes beside them, and listeners are
    found by the hash. It does not travel: whoever sets the bytes builds it
    again. An identity that was constructed without generating an id has
    never built it.

    `hash` is `common::Hash`, which is asked for nothing but the bytes of an
    identity. -/

namespace CyberRT.Transport

open CyberRT.Framework

/-! ## Section 1: Identities with their hashes -/

/-- The identity whose bytes are at the offset `off`. -/
def Identity.read (src : List UInt8) (off : Nat) : Option Identity :=
  if h : off + idSize ≤ src.length then
    some
      { data        := (src.drop off).take idSize
        data_length := by rw [List.length_take, List.length_drop, Nat.min_eq_left (by omega)] }
  else none

theorem Identity.read_eq_some {src : List UInt8} {off : Nat} {id : Identity}
    (h : Buffer.read src off idSize = some id.data) : Identity.read src off = some id := by
  unfold Buffer.read at h
  split at h
  · next hle =>
    rw [Identity.read, dif_pos hle]
    cases id
    simpa using h
  · cases h

structure HashedIdentity where
  bytes        : Identity
  hashValue    : UInt64
  hashValueStr : String
  deriving DecidableEq

namespace HashedIdentity

/-- An identity without an id. -/
def unset : HashedIdentity := ⟨.zero, 0, ""⟩

/-- `operator==` -/
def eq (self another : HashedIdentity) : Bool := self.bytes = another.bytes

section hashed
variable (hash : Identity → UInt64)

def update (self : HashedIdentity) : HashedIdentity :=
  { self with hashValue := hash self.bytes, hashValueStr := toString (hash self.bytes) }

/-- The constructor; `uuid` are the first bytes of the uuid it may generate. -/
def new (needGenerate : Bool) (uuid : Identity) : HashedIdentity :=
  if needGenerate then update hash { unset with bytes := uuid } else unset

def setData (self : HashedIdentity) (data : Identity) : HashedIdentity :=
  update hash { self with bytes := data }

/-- The identities a program can make. Copies and assignments are the
    identity itself. -/
inductive Constructed : HashedIdentity → Prop
  | new (needGenerate : Bool) (uuid : Identity) : Constructed (new hash needGenerate uuid)
  | setData {self : HashedIdentity} (h : Constructed self) (data : Identity) :
      Constructed (self.setData hash data)

variable {hash} {self : HashedIdentity}

@[simp] theorem setData_bytes (data : Identity) : (self.setData hash data).bytes = data := rfl

@[simp] theorem setData_hashValue (data : Identity) :
    (self.setData hash data).hashValue = hash data := rfl

/-- The cached hash is that of the bytes, unless it was never built. -/
theorem Constructed.hashValue_eq (h : Constructed hash self) :
    self = unset ∨ self.hashValue = hash self.bytes := by
  cases h with
  | new needGenerate uuid =>
    cases needGenerate with
    | false => exact .inl rfl
    | true => exact .inr rfl
  | setData h data => exact .inr rfl

/-- Bytes that are set again have the old hash, or the identity was unset. -/
theorem Constructed.hash_bytes_iff (h : Constructed hash self) :
    hash self.bytes = self.hashValue ↔ (self = unset → hash .zero = 0) := by
  constructor
  · intro heq hunset
    rw [hunset] at heq
    exact heq
  · intro hzero
    rcases h.hashValue_eq with hunset | hhash
    · have hzero' := hzero hunset
      rw [hunset]
      exact hzero'
    · exact hhash.symm

end hashed

end HashedIdentity

/-! ## Section 2: Records with their hashes -/

structure HashedMessageInfo where
  senderId : HashedIdentity
  seqNum   : UInt64
  spareId  : HashedIdentity
  deriving DecidableEq

namespace HashedMessageInfo

/-- What travels of a record. -/
def plain (self : HashedMessageInfo) : MessageInfo :=
  ⟨self.senderId.bytes, self.seqNum, self.spareId.bytes⟩

/-- `operator==` -/
def eq (self another : HashedMessageInfo) : Bool :=
  if !self.senderId.eq another.senderId then false
  else if self.seqNum ≠ another.seqNum then false
  else if !self.spareId.eq another.spareId then false
  else true

/-- `operator==` compares what travels. -/
theorem eq_iff {self another : HashedMessageInfo} :
    self.eq another = true ↔ self.plain = another.plain := by
  simp only [eq, HashedIdentity.eq, plain, MessageInfo.mk.injEq]
  grind

/-- `SerializeTo(std::string* dst)` -/
def serializeTo (self : HashedMessageInfo) : List UInt8 :=
  self.senderId.bytes.data ++ leBytes 8 self.seqNum.toNat ++ self.spareId.bytes.data

/-- The string is the wire form. -/
theorem serializeTo_eq (self : HashedMessageInfo) : self.serializeTo = self.plain.serializeTo := rfl

/-- `SerializeTo(char* dst, std::size_t len)`, `dst` being the offset `off` of
    a buffer: the buffer it leaves behind. -/
def serializeToArray (self : HashedMessageInfo) (buf : List UInt8) (off len : Nat) :
    Option (Bool × List UInt8) :=
  if len < MessageInfo.kSize then some (false, buf)
  else do
    let buf ← Buffer.write buf off self.senderId.bytes.data
    let buf ← Buffer.write buf (off + idSize) (leBytes 8 self.seqNum.toNat)
    let buf ← Buffer.write buf (off + idSize + 8) self.spareId.bytes.data
    return (true, buf)

section hashed
variable (hash : Identity → UInt64)

/-- `DeserializeFrom(const char* src, std::size_t len)`, `src` being the offset
    `off` of a buffer: the record it leaves behind. -/
def deserializeFromArray (self : HashedMessageInfo) (src : List UInt8) (off len : Nat) :
    Option (Bool × HashedMessageInfo) :=
  if len ≠ MessageInfo.kSize then some (false, self)
  else do
    let sender ← Identity.read src off
    let seqNum ← Buffer.read src (off + idSize) 8
    let spare ← Identity.read src (off + idSize + 8)
    return (true,
      { senderId := self.senderId.setData hash sender
        seqNum   := UInt64.ofNat (ofLeBytes seqNum)
        spareId  := self.spareId.setData hash spare })

/-- `DeserializeFrom(const std::string& src)` -/
def deserializeFrom (self : HashedMessageInfo) (src : List UInt8) :
    Option (Bool × HashedMessageInfo) := self.deserializeFromArray hash src 0 src.length

/-- The records a program can make. -/
inductive Constructed : HashedMessageInfo → Prop
  | new : Constructed ⟨.unset, 0, .unset⟩
  | ofSender {sender : HashedIdentity} (h : sender.Constructed hash) (seqNum : UInt64) :
      Constructed ⟨sender, seqNum, .unset⟩
  | ofIds {sender spare : HashedIdentity} (h : sender.Constructed hash) (seqNum : UInt64)
      (h' : spare.Constructed hash) : Constructed ⟨sender, seqNum, spare⟩
  | setSenderId {self : HashedMessageInfo} {sender : HashedIdentity} (h : Constructed self)
      (h' : sender.Constructed hash) : Constructed { self with senderId := sender }
  | setSeqNum {self : HashedMessageInfo} (h : Constructed self) (seqNum : UInt64) :
      Constructed { self with seqNum := seqNum }
  | setSpareId {self : HashedMessageInfo} {spare : HashedIdentity} (h : Constructed self)
      (h' : spare.Constructed hash) : Constructed { self with spareId := spare }
  | deserializeFrom {self self' : HashedMessageInfo} {src : List UInt8} {off len : Nat} {ok : Bool}
      (h : Constructed self) (h' : self.deserializeFromArray hash src off len = some (ok, self')) :
      Constructed self'

/-! ## Section 3: Round trip -/

/-- The record that is made of one that arrives. -/
def ofPlain (info : MessageInfo) : HashedMessageInfo where
  senderId := HashedIdentity.unset.setData hash info.senderId
  seqNum   := info.seqNum
  spareId  := HashedIdentity.unset.setData hash info.spareId

variable {hash} {self info : HashedMessageInfo}

/-- What `SerializeTo` writes into a buffer is the string. -/
theorem serializeToArray_eq (self : HashedMessageInfo) (buf : List UInt8) (off : Nat) {len : Nat}
    (hlen : MessageInfo.kSize ≤ len) :
    self.serializeToArray buf off len =
      (Buffer.write buf off self.serializeTo).map fun buf => (true, buf) := by
  have hfront : (self.senderId.bytes.data ++ leBytes 8 self.seqNum.toNat).length = idSize + 8 := by
    rw [List.length_append, self.senderId.bytes.data_length, leBytes_length]
  -- the three stores are one store of the whole
  have hall := Buffer.write_write buf off
    (self.senderId.bytes.data ++ leBytes 8 self.seqNum.toNat) self.spareId.bytes.data
  rw [← Buffer.write_write, hfront, ← Nat.add_assoc, self.senderId.bytes.data_length,
    Option.bind_assoc] at hall
  rw [serializeTo, ← hall, Option.map_bind]
  unfold serializeToArray
  rw [if_neg (Nat.not_lt.mpr hlen)]
  simp only [Option.bind_eq_bind, Function.comp_def, Option.map_eq_bind, Option.bind_assoc]
  rfl

variable (hash) in
/-- **Wire form**: where the bytes of a record are, the record is read, with
    hashes of their own. -/
theorem deserializeFromArray_of_read (self : HashedMessageInfo) {src : List UInt8} {off : Nat}
    {info : MessageInfo} (h : Buffer.read src off MessageInfo.kSize = some info.serializeTo) :
    self.deserializeFromArray hash src off MessageInfo.kSize = some (true, ofPlain hash info) := by
  have hfront : (info.senderId.data ++ leBytes 8 info.seqNum.toNat).length = idSize + 8 := by
    rw [List.length_append, info.senderId.data_length, leBytes_length]
  have hkSize : MessageInfo.kSize =
      (info.senderId.data ++ leBytes 8 info.seqNum.toNat).length + info.spareId.data.length := by
    rw [hfront, info.spareId.data_length]
    rfl
  -- split from behind: the spare id first, then number and sender
  rw [hkSize, MessageInfo.serializeTo] at h
  obtain ⟨hboth, hspare⟩ := Buffer.read_split h
  rw [List.length_append] at hboth
  obtain ⟨hsender, hseqNum⟩ := Buffer.read_split hboth
  rw [hfront, info.spareId.data_length, ← Nat.add_assoc] at hspare
  rw [info.senderId.data_length] at hsender hseqNum
  rw [leBytes_length] at hseqNum
  have hnum : ofLeBytes (leBytes 8 info.seqNum.toNat) = info.seqNum.toNat :=
    ofLeBytes_leBytes_of_lt info.seqNum.toNat_lt
  unfold deserializeFromArray
  rw [if_neg (fun hne => hne rfl), Identity.read_eq_some hsender, hseqNum,
    Identity.read_eq_some hspare]
  simp only [Option.bind_eq_bind, Option.bind_some, Option.pure_def, hnum, UInt64.ofNat_toNat]
  rfl

/-- A record that came back: it is equal to the one sent, and its senders
    are found under the same hashes. -/
def SameAs (self info : HashedMessageInfo) : Prop :=
  self.eq info = true ∧ self.senderId.hashValue = info.senderId.hashValue ∧
    self.spareId.hashValue = info.spareId.hashValue

variable (hash) in
/-- **Round trip** of a record as a string and through a buffer, into any
    other record; and what has another length is refused. -/
structure RoundTrips (info : HashedMessageInfo) : Prop where
  string : ∀ self : HashedMessageInfo, ∃ self' : HashedMessageInfo,
    self.deserializeFrom hash info.serializeTo = some (true, self') ∧ self'.SameAs info
  array  : ∀ (self : HashedMessageInfo) (buf : List UInt8) (off len : Nat),
    MessageInfo.kSize ≤ len → off + len ≤ buf.length →
      ∃ (buf' : List UInt8) (self' : HashedMessageInfo),
        info.serializeToArray buf off len = some (true, buf') ∧
        self.deserializeFromArray hash buf' off MessageInfo.kSize = some (true, self') ∧
        self'.SameAs info
  refuse : ∀ (self : HashedMessageInfo) (src : List UInt8) (off len : Nat),
    (src.length ≠ MessageInfo.kSize → self.deserializeFrom hash src = some (false, self)) ∧
    (len ≠ MessageInfo.kSize → self.deserializeFromArray hash src off len = some (false, self))

/-- What arrives is equal to what was sent. -/
theorem ofPlain_sameAs_iff :
    (ofPlain hash info.plain).SameAs info ↔
      hash info.senderId.bytes = info.senderId.hashValue ∧
        hash info.spareId.bytes = info.spareId.hashValue := by
  have heq : (ofPlain hash info.plain).eq info = true := eq_iff.mpr rfl
  exact ⟨fun h => h.2, fun h => ⟨heq, h⟩⟩

theorem roundTrips_iff :
    info.RoundTrips hash ↔ (ofPlain hash info.plain).SameAs info := by
  have hlength : info.serializeTo.length = MessageInfo.kSize := by
    rw [serializeTo_eq, MessageInfo.serializeTo_length]
  have hstring : ∀ self : HashedMessageInfo,
      self.deserializeFrom hash info.serializeTo = some (true, ofPlain hash info.plain) := by
    intro self
    have hread := Buffer.read_append [] info.serializeTo []
    rw [List.append_nil, List.nil_append, List.length_nil, hlength] at hread
    rw [deserializeFrom, hlength]
    exact self.deserializeFromArray_of_read _ hread
  constructor
  · -- reading the string into the record itself is enough
    intro h
    obtain ⟨self', hread, hsame⟩ := h.string info
    cases (hstring info).symm.trans hread
    exact hsame
  · intro hsame
    constructor
    · exact fun self => ⟨_, hstring self, hsame⟩
    · intro self buf off len hlen hbuf
      obtain ⟨buf', hwrite⟩ : ∃ buf', Buffer.write buf off info.serializeTo = some buf' :=
        ⟨_, Buffer.write_of_le (by omega)⟩
      have hread := Buffer.read_of_write hwrite
      rw [hlength] at hread
      refine ⟨_, _, ?_, self.deserializeFromArray_of_read _ hread, hsame⟩
      rw [info.serializeToArray_eq buf off hlen, hwrite]
      rfl
    · exact fun self src off len => ⟨fun hne => if_pos hne, fun hne => if_pos hne⟩

/-- What is left of a record that reads another. -/
theorem deserializeFromArray_cases {self' : HashedMessageInfo} {src : List UInt8} {off len : Nat}
    {ok : Bool} (h : self.deserializeFromArray hash src off len = some (ok, self')) :
    self' = self ∨ ∃ received : MessageInfo, self' = ofPlain hash received := by
  unfold deserializeFromArray at h
  split at h
  · cases h
    exact .inl rfl
  · rcases hsender : Identity.read src off with _ | sender
    · simp [hsender] at h
    rcases hseqNum : Buffer.read src (off + idSize) 8 with _ | seqNum
    · simp [hsender, hseqNum] at h
    rcases hspare : Identity.read src (off + idSize + 8) with _ | spare
    · simp [hsender, hseqNum, hspare] at h
    simp only [hsender, hseqNum, hspare, Option.bind_eq_bind, Option.bind_some, Option.pure_def,
      Option.some.injEq, Prod.mk.injEq] at h
    exact .inr ⟨⟨sender, _, spare⟩, h.2.symm⟩

/-- The identities of a record are such as a program can make. -/
theorem Constructed.ids (h : Constructed hash info) :
    info.senderId.Constructed hash ∧ info.spareId.Constructed hash := by
  have hunset : HashedIdentity.unset.Constructed hash := .new false .zero
  induction h with
  | new => exact ⟨hunset, hunset⟩
  | ofSender h seqNum => exact ⟨h, hunset⟩
  | ofIds h seqNum h' => exact ⟨h, h'⟩
  | setSenderId h h' ih => exact ⟨h', ih.2⟩
  | setSeqNum h seqNum ih => exact ih
  | setSpareId h h' ih => exact ⟨ih.1, h'⟩
  | deserializeFrom h h' ih =>
    rcases deserializeFromArray_cases h' with rfl | ⟨received, rfl⟩
    · exact ih
    · exact ⟨.setData hunset _, .setData hunset _⟩

/-- **MessageInfo on the wire**: it comes back as it was, with its hashes,
    unless one of its identities was constructed without generating an id. -/
theorem messageInfo_roundTrip (h : Constructed hash info) :
    info.RoundTrips hash ↔
      (info.senderId = .unset ∨ info.spareId = .unset → hash .zero = 0) := by
  obtain ⟨hsender, hspare⟩ := h.ids
  rw [roundTrips_iff, ofPlain_sameAs_iff, hsender.hash_bytes_iff, hspare.hash_bytes_iff]
  exact or_imp.symm

end hashed

/-! ### The hash of the standard library -/

def shiftMix (v : UInt64) : UInt64 := v ^^^ (v >>> 47)

/-- `std::hash` of a string of eight bytes, as libstdc++ has it. -/
def stdHash (id : Identity) : UInt64 :=
  let mul  : UInt64 := 0xc6a4a7935bd1e995
  let seed : UInt64 := 0xc70f6907
  let data := shiftMix (UInt64.ofNat (ofLeBytes id.data) * mul) * mul
  let h := (seed ^^^ 8 * mul ^^^ data) * mul
  shiftMix (shiftMix h * mul)

/-- "sender" with two zeros behind it. -/
def senderBytes : Identity := ⟨[115, 101, 110, 100, 101, 114, 0, 0], rfl⟩

/-- A record with two generated identities comes back. -/
theorem messageInfo_roundTrip_generated :
    RoundTrips stdHash ⟨.new stdHash true senderBytes, 7, .new stdHash true senderBytes⟩ :=
  (messageInfo_roundTrip (.ofIds (.new true senderBytes) 7 (.new true senderBytes))).mpr
    (by decide)

/-- The spare identity of a record made of a sender and a number has the
    hash 0. It comes back with the hash of eight zeros. -/
theorem messageInfo_spareHash :
    Constructed stdHash ⟨.new stdHash true senderBytes, 7, .unset⟩ ∧
    stdHash .zero = 17606749225356372073 ∧
    ¬ RoundTrips stdHash ⟨.new stdHash true senderBytes, 7, .unset⟩ := by
  refine ⟨.ofSender (.new true senderBytes) 7, by decide, ?_⟩
  rw [roundTrips_iff, ofPlain_sameAs_iff]
  decide

end HashedMessageInfo

end CyberRT.Transport
