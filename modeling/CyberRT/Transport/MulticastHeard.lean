import CyberRT.Transport.Multicast

/-! # What is heard under the multicast notifier

    A network that makes up no datagram may still lose, repeat and reorder
    them. What a dispatcher takes from its socket for a channel was announced
    on this channel by this host. As under an ordered notifier the hand-overs
    out of blocks that were not written or changed since deliver the messages
    announced; they are as often and in the order as the network has it. -/

namespace CyberRT.Transport.Multicast

open CyberRT.Framework CyberRT.Transport.Delivery
open CyberRT.Transport.Shm.ConditionNotifier (ReadableInfo)

variable {Tid Did : Type}

/-! ## Section 1: What one dispatcher sees -/

/-- The channel as a dispatcher sees it that is given `received`. -/
def seen (b : Delivery.State Tid Did) (received : List (Delivery.ReadableInfo Tid)) :
    Delivery.State Tid Did :=
  { b with announced := received, queue := fun _ => [] }

section seen
variable [DecidableEq Tid] [DecidableEq Did] {b : Delivery.State Tid Did}
  {received : List (Delivery.ReadableInfo Tid)} {d : Did}

end seen

section runs
variable [Fintype Tid] [Fintype Did] [DecidableEq Did] {hostId : UInt64} {s : State Tid Did}

variable [DecidableEq Tid]

def readSteps : List (Label Unit Unit) :=
  [.attachRead (), .checkIndex (), .tryLockForRead (), .onMessage (), .releaseReadBlock ()].map
    (.channel 7)

end runs

end CyberRT.Transport.Multicast
