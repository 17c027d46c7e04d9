import CyberRT.Record.File.RecordLayout
import CyberRT.Record.RecordWire
import Mathlib.Data.List.Basic

/-! # Counters of a record file

    The counters in the header, the positions in it and the message numbers
    of the channel entries in the index, in every reachable state, and what
    a `Close` that returned leaves in the file.

    `WriteHeader` takes the counters of the header it is given as they are,
    and the writer goes on counting from there. -/

namespace CyberRT.Record

open CyberRT.Framework

variable {P : Protobuf} {given : Header} {s : State}

/-! ## Section 1: What a file contains -/

def Block.asChannel : Block → Option Channel
  | .channel c => some c
  | .chunk _   => none

def Block.asChunk : Block → Option (List SingleMessage)
  | .channel _ => none
  | .chunk ms  => some ms

def channelsOf (blocks : List Block) : List Channel := blocks.filterMap Block.asChannel

def chunksOf (blocks : List Block) : List (List SingleMessage) := blocks.filterMap Block.asChunk

@[simp] theorem channelsOf_concat_channel (blocks : List Block) (c : Channel) :
    channelsOf (blocks ++ [.channel c]) = channelsOf blocks ++ [c] :=
  List.filterMap_append

@[simp] theorem channelsOf_concat_chunk (blocks : List Block) (ms : List SingleMessage) :
    channelsOf (blocks ++ [.chunk ms]) = channelsOf blocks :=
  List.filterMap_append.trans (List.append_nil _)

@[simp] theorem chunksOf_concat_channel (blocks : List Block) (c : Channel) :
    chunksOf (blocks ++ [.channel c]) = chunksOf blocks :=
  List.filterMap_append.trans (List.append_nil _)

@[simp] theorem chunksOf_concat_chunk (blocks : List Block) (ms : List SingleMessage) :
    chunksOf (blocks ++ [.chunk ms]) = chunksOf blocks ++ [ms] :=
  List.filterMap_append

/-- The messages of channel `name`. -/
def numberOf (messages : List SingleMessage) (name : List UInt8) : Nat :=
  messages.countP (·.channelName = name)

def SingleIndex.asChannel (e : SingleIndex) : Option ChannelCache :=
  match e.cache with
  | .channel c => some c
  | _          => none

/-- The channel entries of an index. -/
def Index.channels (i : Index) : List ChannelCache := i.indexes.filterMap SingleIndex.asChannel

def ChannelCache.toChannel (c : ChannelCache) : Channel := ⟨c.name, c.messageType, c.protoDesc⟩

/-- **Complete files**: the file is laid out as its header says, it holds the
    messages `written`, and the counters are what the file contains, on top
    of the counters of `base`. -/
structure Complete (P : Protobuf) (base : Header) (written : List SingleMessage)
    (r : RecordFile) : Prop where
  headerLength  : (P.headerBlock r.header).length = sizeofSection + headerLength
  indexPosition : r.header.indexPosition.toNat =
    (P.headerBlock r.header ++ r.blocks.flatMap P.blockBytes).length
  messages      : (messagesOf r.blocks).Perm written
  channelNumber : (r.header.channelNumber - base.channelNumber).toNat =
    (channelsOf r.blocks).length
  chunkNumber   : (r.header.chunkNumber - base.chunkNumber).toNat = (chunksOf r.blocks).length
  messageNumber : (r.header.messageNumber - base.messageNumber).toNat =
    (messagesOf r.blocks).length
  size          : r.header.size.toNat = (r.bytes P).length
  channels      : r.index.channels.map ChannelCache.toChannel = channelsOf r.blocks
  numbers       : ∀ c ∈ r.index.channels,
    c.messageNumber.toNat = numberOf (messagesOf r.blocks) c.name
  isComplete    : r.header.isComplete = true

/-! ## Section 2: The counters -/

/-- The header and the index against the blocks. -/
structure Counters (given header : Header) (index : Index) (blocks : List Block)
    (numbers : List UInt8 → UInt64) : Prop where
  channelNumber : header.channelNumber = given.channelNumber + .ofNat (channelsOf blocks).length
  chunkNumber   : header.chunkNumber = given.chunkNumber + .ofNat (chunksOf blocks).length
  messageNumber : header.messageNumber = given.messageNumber + .ofNat (messagesOf blocks).length
  channels      : index.channels =
    (channelsOf blocks).map fun c => ⟨numbers c.name, c.name, c.messageType, c.protoDesc⟩
  typed         : ∀ e ∈ index.indexes, e.type = .channel → ∃ c, e.cache = .channel c
  others        : ∀ e ∈ index.indexes, e.type ≠ .channel → e.asChannel = none

namespace SingleIndex

variable (e : SingleIndex) {map : List UInt8 → Option UInt64}

theorem setMessageNumber_of_other (htype : e.type ≠ .channel) : e.setMessageNumber map = e :=
  if_neg htype

theorem setMessageNumber_of_channel (htype : e.type = .channel) {c : ChannelCache}
    (hc : e.cache = .channel c) : e.setMessageNumber map =
      { e with
        cache := .channel { c with messageNumber := (map c.name).getD c.messageNumber } } := by
  have hcache : e.mutableChannelCache = c := by
    rw [mutableChannelCache, hc]
  unfold setMessageNumber
  rw [if_pos htype, hcache]
  cases hn : map c.name <;> simp [hn]

theorem setMessageNumber_type : (e.setMessageNumber map).type = e.type := by
  unfold setMessageNumber
  by_cases htype : e.type = .channel
  · rw [if_pos htype]
    cases hn : map e.mutableChannelCache.name <;> simp [hn]
  · rw [if_neg htype]

end SingleIndex

/-- The message numbers the index carries. -/
def State.numbers (s : State) (name : List UInt8) : UInt64 :=
  if s.caller.indexed then (s.channelMessageNumberMap name).getD 0 else 0

/-- The counters of a writer. -/
structure Counted (P : Protobuf) (given : Header) (s : State) : Prop where
  fresh    : s.caller.fresh = true → s.index = ⟨[]⟩ ∧ s.blocks = []
  counters : s.caller.fresh = false → Counters given s.header s.index s.blocks s.numbers
  map      : ∀ name, (s.channelMessageNumberMap name).getD 0 = .ofNat (numberOf s.written name)
  position : s.caller.indexed = true → s.header.indexPosition =
    .ofNat (sizeofSection + headerLength + (s.blocks.flatMap P.blockBytes).length)
  complete : s.caller.indexed = true → s.caller ≠ .setComplete → s.header.isComplete = true

namespace Counters

variable {header header' : Header} {index : Index} {blocks : List Block}
  {numbers : List UInt8 → UInt64}

/-- A header with the same counters. -/
theorem setHeader (h : Counters given header index blocks numbers)
    (hchannel : header'.channelNumber = header.channelNumber)
    (hchunk : header'.chunkNumber = header.chunkNumber)
    (hmessage : header'.messageNumber = header.messageNumber) :
    Counters given header' index blocks numbers where
  channelNumber := hchannel.trans h.channelNumber
  chunkNumber   := hchunk.trans h.chunkNumber
  messageNumber := hmessage.trans h.messageNumber
  channels      := h.channels
  typed         := h.typed
  others        := h.others

theorem first : Counters given given ⟨[]⟩ [] numbers where
  channelNumber := by simp [channelsOf]
  chunkNumber   := by simp [chunksOf]
  messageNumber := by simp [messagesOf]
  channels      := rfl
  typed         := nofun
  others        := nofun

/-- An entry of another type. -/
theorem addIndex (h : Counters given header index blocks numbers) {e : SingleIndex}
    (htype : e.type ≠ .channel) (hcache : e.asChannel = none) :
    Counters given header ⟨index.indexes ++ [e]⟩ blocks numbers where
  channelNumber := h.channelNumber
  chunkNumber   := h.chunkNumber
  messageNumber := h.messageNumber
  channels      := by
    have hold := h.channels
    unfold Index.channels at hold ⊢
    rw [List.filterMap_append, hold]
    simp [hcache]
  typed         := by
    intro e' he'
    rw [List.mem_append, List.mem_singleton] at he'
    obtain hold | rfl := he'
    · exact h.typed e' hold
    · exact fun htype' => absurd htype' htype
  others        := by
    intro e' he'
    rw [List.mem_append, List.mem_singleton] at he'
    obtain hold | rfl := he'
    · exact h.others e' hold
    · exact fun _ => hcache

/-- A channel. -/
theorem addChannel (h : Counters given header index blocks fun _ => 0) (c : Channel)
    (position : UInt64) :
    Counters given { header with channelNumber := header.channelNumber + 1 }
      ⟨index.indexes ++
        [⟨.channel, position, .channel ⟨0, c.name, c.messageType, c.protoDesc⟩⟩]⟩
      (blocks ++ [.channel c]) fun _ => 0 where
  channelNumber := by
    show header.channelNumber + 1 = _
    rw [h.channelNumber]
    simp [UInt64.add_assoc]
  chunkNumber   := by
    show header.chunkNumber = _
    rw [h.chunkNumber, chunksOf_concat_channel]
  messageNumber := by
    show header.messageNumber = _
    rw [h.messageNumber, messagesOf_concat]
    exact (congrArg _ (congrArg UInt64.ofNat (congrArg List.length (List.append_nil _)))).symm
  channels      := by
    have hold := h.channels
    unfold Index.channels at hold ⊢
    rw [List.filterMap_append, hold]
    simp [SingleIndex.asChannel]
  typed         := by
    intro e' he'
    rw [List.mem_append, List.mem_singleton] at he'
    obtain hold | rfl := he'
    · exact h.typed e' hold
    · exact fun _ => ⟨_, rfl⟩
  others        := by
    intro e' he'
    rw [List.mem_append, List.mem_singleton] at he'
    obtain hold | rfl := he'
    · exact h.others e' hold
    · exact fun hne => absurd rfl hne

/-- A chunk whose header entry is in the index. -/
theorem addChunk (h : Counters given header index blocks numbers) (ms : List SingleMessage)
    (hchannel : header'.channelNumber = header.channelNumber)
    (hchunk : header'.chunkNumber = header.chunkNumber + 1)
    (hmessage : header'.messageNumber = header.messageNumber + .ofNat ms.length) :
    Counters given header' index (blocks ++ [.chunk ms]) numbers where
  channelNumber := by
    rw [hchannel, h.channelNumber, channelsOf_concat_chunk]
  chunkNumber   := by
    rw [hchunk, h.chunkNumber]
    simp [UInt64.add_assoc]
  messageNumber := by
    rw [hmessage, h.messageNumber, messagesOf_concat, List.length_append]
    simp [Block.messages, UInt64.add_assoc]
  channels      := by
    rw [h.channels, channelsOf_concat_chunk]
  typed         := h.typed
  others        := h.others

/-- The loop of `WriteIndex` puts the numbers of the map into the channel
    entries and leaves the others alone. -/
theorem setMessageNumbers (h : Counters given header index blocks fun _ => 0)
    (map : List UInt8 → Option UInt64) :
    Counters given header ⟨index.indexes.map (·.setMessageNumber map)⟩ blocks
      fun name => (map name).getD 0 where
  channelNumber := h.channelNumber
  chunkNumber   := h.chunkNumber
  messageNumber := h.messageNumber
  channels      := by
    have hentry : ∀ e ∈ index.indexes, (e.setMessageNumber map).asChannel = e.asChannel.map
        fun c => { c with messageNumber := (map c.name).getD c.messageNumber } := by
      intro e he
      by_cases htype : e.type = .channel
      · obtain ⟨c, hc⟩ := h.typed e he htype
        rw [e.setMessageNumber_of_channel htype hc]
        simp [SingleIndex.asChannel, hc]
      · rw [e.setMessageNumber_of_other htype, h.others e he htype]
        rfl
    have hold := h.channels
    unfold Index.channels at hold ⊢
    rw [List.filterMap_map]
    refine (List.filterMap_congr hentry).trans ?_
    rw [← List.map_filterMap, hold, List.map_map]
    rfl
  typed         := by
    intro e' he' htype'
    obtain ⟨e, he, rfl⟩ := List.mem_map.mp he'
    rw [e.setMessageNumber_type] at htype'
    obtain ⟨c, hc⟩ := h.typed e he htype'
    rw [e.setMessageNumber_of_channel htype' hc]
    exact ⟨_, rfl⟩
  others        := by
    intro e' he' hne'
    obtain ⟨e, he, rfl⟩ := List.mem_map.mp he'
    rw [e.setMessageNumber_type] at hne'
    rw [e.setMessageNumber_of_other hne']
    exact h.others e he hne'

end Counters

/-! ## Section 3: Steps -/

theorem Counted.of_quiet {s s' : State} (h : Counted P given s) (hq : Quiet s s') :
    Counted P given s' := by
  have hnumbers : s'.numbers = s.numbers := by
    unfold State.numbers
    simp only [hq.indexed, hq.members]
  constructor
  · rw [hq.fresh, hq.members]
    exact h.fresh
  · rw [hq.fresh, hq.members, hnumbers]
    exact h.counters
  · rw [hq.members]
    exact h.map
  · rw [hq.indexed, hq.members]
    exact h.position
  · rw [hq.indexed, hq.members]
    exact fun hi hne => h.complete hi (mt hq.mark.mpr hne)

/-- While no index is written: the counters are all there is to show. -/
theorem Counted.growing (hf : s.caller.fresh = false) (hi : s.caller.indexed = false)
    (hcounters : Counters given s.header s.index s.blocks fun _ => 0)
    (hmap : ∀ name, (s.channelMessageNumberMap name).getD 0 = .ofNat (numberOf s.written name)) :
    Counted P given s := by
  have hnumbers : s.numbers = fun _ => 0 := by
    funext name
    rw [State.numbers, hi]
    rfl
  constructor
  · rw [hf]
    nofun
  · rw [hnumbers]
    exact fun _ => hcounters
  · exact hmap
  · rw [hi]
    nofun
  · rw [hi]
    nofun

theorem Counted.counters_growing (h : Counted P given s) (hf : s.caller.fresh = false)
    (hi : s.caller.indexed = false) : Counters given s.header s.index s.blocks fun _ => 0 := by
  have hnumbers : s.numbers = fun _ => 0 := by
    funext name
    rw [State.numbers, hi]
    rfl
  exact hnumbers ▸ h.counters hf

/-- A message counts for its channel. -/
theorem numberOf_concat (ms : List SingleMessage) (m : SingleMessage) (name : List UInt8) :
    numberOf (ms ++ [m]) name = numberOf ms name + if m.channelName = name then 1 else 0 := by
  simp [numberOf, List.countP_append, List.countP_cons]

theorem addMessage_map {w : RecordFileWriter} (m : SingleMessage)
    (h : ∀ name, (w.channelMessageNumberMap name).getD 0 = .ofNat (numberOf w.written name))
    (name : List UInt8) : ((w.addMessage m).channelMessageNumberMap name).getD 0 =
      .ofNat (numberOf (w.addMessage m).written name) := by
  obtain ⟨number, hupdate, hnumber⟩ : ∃ number, (w.addMessage m).channelMessageNumberMap =
      Function.update w.channelMessageNumberMap m.channelName (some number) ∧
      number = (w.channelMessageNumberMap m.channelName).getD 0 + 1 := by
    refine ⟨_, rfl, ?_⟩
    cases w.channelMessageNumberMap m.channelName <;> simp
  show _ = UInt64.ofNat (numberOf (w.written ++ [m]) name)
  rw [hupdate, numberOf_concat]
  by_cases hname : name = m.channelName
  · subst hname
    rw [Function.update_self, if_pos rfl, Option.getD_some, hnumber, h, UInt64.ofNat_add]
    rfl
  · rw [Function.update_of_ne hname, if_neg (Ne.symm hname), h, Nat.add_zero]

section steps

theorem counted_headerWrite (last : Bool) (h : Counted P given s)
    (hg : ((recordFileWriter P given).action (.headerWrite last)).gate s) :
    Counted P given (((recordFileWriter P given).action (.headerWrite last)).effect s) := by
  have hpc : s.caller = .headerWrite last := hg.1
  cases last with
  | false =>
    obtain ⟨hindex, hblocks⟩ := h.fresh (by rw [hpc]; rfl)
    have hfirst : Counters given given s.index s.blocks fun _ => 0 := by
      rw [hindex, hblocks]
      exact .first
    exact .growing rfl rfl (hfirst.setHeader rfl rfl rfl) h.map
  | true =>
    have hi : s.caller.indexed = true := by
      rw [hpc]
      rfl
    have hnumbers : s.numbers = fun name => (s.channelMessageNumberMap name).getD 0 := by
      funext name
      rw [State.numbers, hi]
      rfl
    have hcounters := h.counters (by rw [hpc]; rfl)
    rw [hnumbers] at hcounters
    exact ⟨nofun, fun _ => hcounters.setHeader rfl rfl rfl, h.map, fun _ => h.position hi,
      fun _ _ => h.complete hi (by rw [hpc]; nofun)⟩

theorem counted_indexWrite (ht : s.Threads) (hl : Layout P s) (h : Counted P given s)
    (hg : ((recordFileWriter P given).action .indexWrite).gate s) :
    Counted P given (((recordFileWriter P given).action .indexWrite).effect s) := by
  have hpc : s.caller = .indexWrite := hg.1
  have hbody : s.flusher ≠ .chunkBody := by
    apply not_body_of_inFile ht
    rw [hpc]
    rfl
  have hopen : s.openSections = [] := by
    apply openSections_eq_nil hbody
    rw [hpc]
    rfl
  obtain ⟨h₀, hw, hend, _⟩ := hl.written (by rw [hpc]; rfl) (by rw [hpc]; nofun)
  rw [hopen] at hw
  have hcounters := h.counters_growing (by rw [hpc]; rfl) (by rw [hpc]; rfl)
  have hset : Counters given (s.writeIndex P).header _ _ _ :=
    (hcounters.setMessageNumbers s.channelMessageNumberMap).setHeader rfl rfl rfl
  refine ⟨nofun, fun _ => hset, h.map, fun _ => ?_, fun _ hne => absurd rfl hne⟩
  -- the position of the index is the offset behind the blocks
  show UInt64.ofNat s.file.pos = _
  rw [hend, hw.length_blocks]
  rfl

/-- **Step lemma**, counters. -/
theorem counted_step (a : Label) (ht : s.Threads) (hc : s.Chunks) (hl : Layout P s)
    (h : Counted P given s) (hg : ((recordFileWriter P given).action a).gate s) :
    Counted P given (((recordFileWriter P given).action a).effect s) := by
  cases a with
  | headerWrite last => exact counted_headerWrite last h hg
  | indexWrite => exact counted_indexWrite ht hl h hg
  | channelWrite c =>
    have hpc : s.caller = .channelWrite c := hg.1
    have hcounters := h.counters_growing (by rw [hpc]; rfl) (by rw [hpc]; rfl)
    exact .growing rfl rfl ((hcounters.addChannel c _).setHeader rfl rfl rfl) h.map
  | writeMessage m =>
    have hpc : s.caller = .idle := hg.1
    have hcounters := h.counters_growing (by rw [hpc]; rfl) (by rw [hpc]; rfl)
    refine .growing ?_ ?_ hcounters (addMessage_map m h.map)
    · show CallerPc.fresh (if _ then _ else _) = false
      split <;> rfl
    · show CallerPc.indexed (if _ then _ else _) = false
      split <;> rfl
  | swap last =>
    have hpc : s.caller = .swap last := hg
    have hcounters := h.counters_growing (by rw [hpc]; rfl) (by rw [hpc]; rfl)
    exact .growing (by cases last <;> rfl) (by cases last <;> rfl) hcounters h.map
  | setComplete =>
    have hpc : s.caller = .setComplete := hg
    have hi : s.caller.indexed = true := by
      rw [hpc]
      rfl
    have hnumbers : s.numbers = fun name => (s.channelMessageNumberMap name).getD 0 := by
      funext name
      rw [State.numbers, hi]
      rfl
    have hcounters := h.counters (by rw [hpc]; rfl)
    rw [hnumbers] at hcounters
    exact ⟨nofun, fun _ => hcounters.setHeader rfl rfl rfl, h.map, fun _ => h.position hi,
      fun _ _ => rfl⟩
  | chunkHeader =>
    obtain ⟨hf, hj⟩ := growing_of_writing ht hc (by rw [hg.1]; rfl)
    have hi := CallerPc.not_indexed hj
    have hcounters : Counters given (s.writeChunkHeader P s.chunkFlush.header).header _ _ _ :=
      (h.counters_growing hf hi).setHeader rfl rfl rfl
    exact .growing hf hi (hcounters.addIndex nofun rfl) h.map
  | chunkBody =>
    obtain ⟨hf, hj⟩ := growing_of_writing ht hc (by rw [hg.1]; rfl)
    have hi := CallerPc.not_indexed hj
    have hnumber : s.chunkFlush.header.messageNumber =
        .ofNat s.chunkFlush.body.messages.length := by
      rw [hc.soundFlush.of, Chunk.messages_of]
      exact Chunk.messageNumber_of _
    have hcounters : Counters given
        (s.writeChunkBody P s.chunkFlush.header s.chunkFlush.body).header _ _ _ :=
      (h.counters_growing hf hi).addChunk s.chunkFlush.body.messages rfl rfl
        (congrArg (s.header.messageNumber + ·) hnumber)
    exact .growing hf hi (hcounters.addIndex nofun rfl) h.map
  | clear =>
    obtain ⟨hf, hj⟩ := growing_of_writing ht hc (by rw [show s.flusher = _ from hg]; rfl)
    have hi := CallerPc.not_indexed hj
    exact .growing hf hi (h.counters_growing hf hi) h.map
  | _ => exact h.of_quiet (quiet_step _ rfl hg)

end steps

/-- **Run lemma**: the counters in every reachable state. -/
theorem counted_reachable (h : (recordFileWriter P given).Reachable s) : Counted P given s := by
  induction h with
  | init hi =>
    obtain ⟨hs, _, _, _, hcaller, _⟩ := hi
    constructor
    · intro _
      rw [hs]
      exact ⟨rfl, rfl⟩
    · rw [hcaller]
      nofun
    · intro name
      rw [hs]
      rfl
    · rw [hcaller]
      nofun
    · rw [hcaller]
      nofun
  | step a hr hstep ih =>
    obtain ⟨hg, rfl⟩ := hstep
    have hinv := threads_reachable hr
    exact counted_step a hinv.1 hinv.2 (layout_reachable hr) ih hg

/-! ## Section 4: After Close -/

/-- What a file contains takes its bytes. -/
theorem length_blocks_le (hP : P.Lawful) (blocks : List Block) :
    (messagesOf blocks).length + sizeofSection * blocks.length ≤
      (blocks.flatMap P.blockBytes).length := by
  induction blocks with
  | nil => exact Nat.zero_le _
  | cons b blocks ih =>
    have hblock : b.messages.length + sizeofSection ≤ (P.blockBytes b).length := by
      cases b with
      | channel c =>
        simp only [Block.messages, Protobuf.blockBytes, Block.sections, List.flatMap_cons,
          List.flatMap_nil, List.append_nil, List.length_nil, P.length_sectionBytes, sizeofSection]
        omega
      | chunk ms =>
        have hbody := hP.chunkBody_length ⟨ms⟩
        simp only [Block.messages, Protobuf.blockBytes, Block.sections, List.flatMap_cons,
          List.flatMap_nil, List.append_nil, List.length_append, P.length_sectionBytes,
          sizeofSection]
        have hsize : P.byteSize (.chunkBody ⟨ms⟩) = P.chunkBody.byteSize ⟨ms⟩ := rfl
        simp only at hbody
        omega
    simp only [messagesOf, List.flatMap_cons, List.length_append, List.length_cons,
      Nat.mul_add, Nat.mul_one] at ih ⊢
    omega

/-- A counter that has not wrapped around. -/
theorem toNat_counter {x base : UInt64} {n : Nat} (h : x = base + .ofNat n)
    (hn : n < UInt64.size) : (x - base).toNat = n := by
  have hsub : base + .ofNat n - base = .ofNat n := by
    rw [UInt64.add_comm]
    exact UInt64.add_sub_cancel _ _
  rw [h, hsub, UInt64.toNat_ofNat_of_lt' hn]

/-- The content of the file a closed writer has left. -/
def State.content (s : State) : RecordFile :=
  ⟨s.header.withSize s.file.bytes.length, s.blocks, s.index⟩

/-- After `Close` the file is its content. -/
theorem written_of_closed (h : (recordFileWriter P given).Reachable s)
    (hclosed : s.caller = .closed) :
    Written P s.content.header s.file s.content.blocks [.index s.content.index] ∧
      s.file.bytes = s.content.bytes P := by
  have hi : s.caller.indexed = true := by
    rw [hclosed]
    rfl
  have hdone : s.flusher = .done := (threads_reachable h).1.joined (CallerPc.joined_of_indexed hi)
  have hopen : s.openSections = [.index s.index] :=
    openSections_of_indexed (by rw [hdone]; nofun) hi
  have hw : Written P s.content.header s.file s.content.blocks [.index s.content.index] := by
    cases layout_reachable h with
    | fresh hf =>
      rw [hclosed] at hf
      cases hf
    | growing _ _ hne => exact absurd hclosed hne
    | closed _ hw => exact hopen ▸ hw
  refine ⟨hw, ?_⟩
  rw [hw.bytes]
  simp [RecordFile.bytes]

/-- **Main result**: a `Close` that returned leaves a complete file of the
    messages written, counted on top of the header given to `WriteHeader`. -/
theorem close_complete (hP : P.Lawful) (h : (recordFileWriter P given).Reachable s)
    (hclosed : s.caller = .closed) :
    ∃ r : RecordFile, s.file.bytes = r.bytes P ∧ Complete P given s.written r := by
  have hi : s.caller.indexed = true := by
    rw [hclosed]
    rfl
  have hf : s.caller.fresh = false := by
    rw [hclosed]
    rfl
  have hdrained : s.caller.drained = true := by
    rw [hclosed]
    rfl
  have hinv := threads_reachable h
  have hcount := counted_reachable h
  have hcounters := hcount.counters hf
  have hperm := written_perm_of_drained h hdrained
  obtain ⟨hw, hbytes⟩ := written_of_closed h hclosed
  -- everything counted is bounded by the length of the file
  have hheader := P.length_headerBlock hw.fits
  have hlen : sizeofSection + headerLength + (s.blocks.flatMap P.blockBytes).length ≤
      s.file.bytes.length := by
    rw [hbytes, ← hheader]
    simp only [RecordFile.bytes, State.content, List.length_append]
    omega
  have hsmall : s.file.bytes.length < UInt64.size :=
    Nat.lt_of_le_of_lt hw.small (by decide)
  have hcontent := length_blocks_le hP s.blocks
  simp only [sizeofSection] at hcontent
  have hchannels : (channelsOf s.blocks).length ≤ s.blocks.length := List.length_filterMap_le _ _
  have hchunks : (chunksOf s.blocks).length ≤ s.blocks.length := List.length_filterMap_le _ _
  have hchannels : (channelsOf s.blocks).length < UInt64.size := by omega
  have hchunks : (chunksOf s.blocks).length < UInt64.size := by omega
  have hmessages : (messagesOf s.blocks).length < UInt64.size := by omega
  refine ⟨s.content, hbytes, ?_⟩
  constructor
  · exact hheader
  · show s.header.indexPosition.toNat = _
    rw [hcount.position hi, List.length_append, hheader]
    exact UInt64.toNat_ofNat_of_lt' (by omega)
  · exact hperm.symm
  · exact toNat_counter hcounters.channelNumber hchannels
  · exact toNat_counter hcounters.chunkNumber hchunks
  · exact toNat_counter hcounters.messageNumber hmessages
  · rw [← hbytes]
    exact UInt64.toNat_ofNat_of_lt' hsmall
  · show s.index.channels.map _ = _
    rw [hcounters.channels, List.map_map]
    exact List.map_id _
  · intro c hc
    have hc : c ∈ s.index.channels := hc
    rw [hcounters.channels, List.mem_map] at hc
    obtain ⟨c', _, rfl⟩ := hc
    have hnumber : s.numbers c'.name = .ofNat (numberOf s.written c'.name) := by
      rw [State.numbers, hi]
      exact hcount.map c'.name
    have hle : numberOf s.written c'.name ≤ (messagesOf s.blocks).length := by
      rw [← hperm.length_eq]
      exact List.countP_le_length
    show (s.numbers c'.name).toNat = numberOf (messagesOf s.blocks) c'.name
    rw [hnumber, UInt64.toNat_ofNat_of_lt' (by omega)]
    exact hperm.countP_eq _
  · exact hcount.complete hi (by simp [hclosed])

/-- A run that registers a channel, writes one message on it and closes. -/
def oneMessageRun : List Label :=
  [.writeHeader, .headerLock false, .loop, .headerWrite false,
   .writeChannel ⟨[97], [98], [99]⟩, .channelLock ⟨[97], [98], [99]⟩,
   .channelWrite ⟨[97], [98], [99]⟩, .lock, .test, .block, .writeMessage ⟨[97], 5, [1, 2]⟩,
   .close, .waitFlush, .swapLock true, .swap true, .notify true, .swapUnlock true, .relock,
   .test, .checkWriting, .checkEmpty, .chunkLock, .chunkHeader, .chunkBody, .clear, .unlock,
   .waitLast, .loop, .stop, .notifyAll, .lock, .test, .checkWriting, .join, .indexLock,
   .indexWrite, .setComplete, .headerLock true, .headerWrite true]

theorem close_complete_oneMessage :
    ∃ r : RecordFile,
      ((recordFileWriter Wire.protobuf .default).exec initial oneMessageRun).file.bytes =
        r.bytes Wire.protobuf ∧
      Complete Wire.protobuf .default
        ((recordFileWriter Wire.protobuf .default).exec initial oneMessageRun).written r :=
  close_complete Wire.protobuf_lawful
    (System.reachable_exec _ (initial_init _ _) oneMessageRun (by decide +kernel))
    (by decide +kernel)

/-! ## Section 5: Counters that were not zero -/

/-- A file has one header. -/
theorem headerBlock_inj (hP : P.Lawful) {h h' : Header} {xs ys : List UInt8}
    (hfits : P.byteSize (.header h) ≤ headerLength)
    (hfits' : P.byteSize (.header h') ≤ headerLength)
    (heq : P.headerBlock h ++ xs = P.headerBlock h' ++ ys) : h = h' := by
  have hlen : (P.headerBlock h).length = (P.headerBlock h').length := by
    rw [P.length_headerBlock hfits, P.length_headerBlock hfits']
  have hblock := (List.append_inj heq hlen).1
  simp only [Protobuf.headerBlock, Protobuf.sectionBytes, List.append_assoc] at hblock
  obtain ⟨hstruct, hrest⟩ := List.append_inj hblock (by simp)
  -- the size in the struct tells where the message ends
  have hsize : P.byteSize (.header h) = P.byteSize (.header h') := by
    have hbytes := (List.append_inj hstruct (by simp)).2
    have hmax : headerLength < 256 ^ 8 := by decide
    rw [← ofLeBytes_leBytes_of_lt (k := 8) (Nat.lt_of_le_of_lt hfits hmax), hbytes,
      ofLeBytes_leBytes_of_lt (Nat.lt_of_le_of_lt hfits' hmax)]
  have hserial := (List.append_inj hrest hsize).1
  have hparse := hP.header h
  rw [show P.header.serialize h = P.header.serialize h' from hserial, hP.header h'] at hparse
  exact (congrArg Prod.fst hparse).symm

/-- A run that writes nothing between `WriteHeader` and `Close`. -/
def emptyRun : List Label :=
  [.writeHeader, .headerLock false, .headerWrite false, .close, .waitFlush, .swapLock true,
   .swap true, .notify true, .swapUnlock true, .waitLast, .stop, .notifyAll, .loop, .join,
   .indexLock, .indexWrite, .setComplete, .headerLock true, .headerWrite true]

/-- A header whose channel number is not zero. -/
def sevenChannels : Header := { Header.default with channelNumber := 7 }

/-- The counters count on top of the header given to `WriteHeader`: after a
    run without a channel the file still tells of seven. -/
theorem close_complete_fails :
    ∃ s, (recordFileWriter Wire.protobuf sevenChannels).Reachable s ∧ s.caller = .closed ∧
      ¬ ∃ r : RecordFile, s.file.bytes = r.bytes Wire.protobuf ∧
        Complete Wire.protobuf .default s.written r := by
  let s := (recordFileWriter Wire.protobuf sevenChannels).exec initial emptyRun
  have hs : (recordFileWriter Wire.protobuf sevenChannels).Reachable s :=
    System.reachable_exec _ (initial_init _ _) emptyRun (by decide +kernel)
  have hclosed : s.caller = .closed := by decide +kernel
  have hlen : s.file.bytes.length = 2080 := by decide +kernel
  have hseven : s.header.channelNumber = 7 := by decide +kernel
  obtain ⟨hw, hcontent⟩ := written_of_closed hs hclosed
  refine ⟨s, hs, hclosed, ?_⟩
  intro ⟨r, hbytes, hr⟩
  have hfits : Wire.protobuf.byteSize (.header r.header) ≤ headerLength := by
    have hheader := hr.headerLength
    simp only [Protobuf.headerBlock, List.length_append, Protobuf.length_sectionBytes,
      List.length_take, length_blank] at hheader
    omega
  have hheader : s.content.header = r.header := by
    have heq := hcontent.symm.trans hbytes
    simp only [RecordFile.bytes, List.append_assoc] at heq
    exact headerBlock_inj Wire.protobuf_lawful hw.fits hfits heq
  -- seven channels take more bytes than the file has
  have hchannels : 7 = (channelsOf r.blocks).length := by
    have hnumber := hr.channelNumber
    rw [← hheader, show s.content.header.channelNumber = 7 from hseven] at hnumber
    exact hnumber
  have hle : (channelsOf r.blocks).length ≤ r.blocks.length := List.length_filterMap_le _ _
  have hblocks := length_blocks_le Wire.protobuf_lawful r.blocks
  rw [hbytes] at hlen
  simp only [RecordFile.bytes, List.length_append, Protobuf.length_headerBlock _ hfits,
    Protobuf.length_sectionBytes, sizeofSection, headerLength] at hlen hblocks
  omega

end CyberRT.Record
