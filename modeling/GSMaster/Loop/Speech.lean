import GSMaster.Loop.Timers
import GSMaster.Packets.Isolation
import GSMaster.Registry.Messages

/-!
# What the program says, and to whom

A datagram is answered with a few messages, all to the address that it came
from, and but for the list replies they are short. Besides that an iteration
speaks to the servers it registers from the lists of finished downloads, to the
servers that `RunFrame` pings, and to other masters when their timer is over.
-/

namespace GSMaster.Loop

open GSMaster.Text GSMaster.Net GSMaster.Games GSMaster.Registry GSMaster.Lists
open GSMaster.Library GSMaster.Packets

variable {setup : Setup} {met : Surroundings}

/-! ## The messages of an iteration -/

/-- What a datagram is answered with, when so many servers are registered. -/
structure Answered (sender : SockaddrIn) (registered : Nat) (noted replied : List Datagram) :
    Prop where
  brief : Brief sender.sinAddr 3 noted
  single : replied.length ≤ 1
  home : ∀ datagram ∈ replied, datagram.dest = sender
  short : ∀ datagram ∈ replied, datagram.bytes.length ≤ 12 + 6 * registered
  either : noted = [] ∨ replied = []

theorem Answered.nothing (sender : SockaddrIn) (registered : Nat) :
    Answered sender registered [] [] :=
  ⟨Brief.nil .., Nat.zero_le 1, fun _ member => (nomatch member), fun _ member => (nomatch member),
    Or.inl rfl⟩

theorem Answered.noted {sender : SockaddrIn} {noted : List Datagram} {count : Nat}
    (brief : Brief sender.sinAddr count noted) (few : count ≤ 3) (registered : Nat) :
    Answered sender registered noted [] :=
  ⟨brief.mono few, Nat.zero_le 1, fun _ member => (nomatch member),
    fun _ member => (nomatch member), Or.inr rfl⟩

theorem Answered.reply {sender : SockaddrIn} {bytes : List UInt8} {registered : Nat}
    (short : bytes.length ≤ 12 + 6 * registered) :
    Answered sender registered [] [⟨sender, bytes⟩] :=
  ⟨Brief.nil .., Nat.le_refl 1, List.forall_mem_singleton.mpr rfl,
    List.forall_mem_singleton.mpr short, Or.inl rfl⟩

namespace Program

end Program

end GSMaster.Loop
