import GSMaster.Registry.Arrivals
import GSMaster.Registry.Pings

/-!
# The messages of the operations

What an operation sends is short and goes to the server that it is about: a
query and perhaps a courtesy message. An import sends them to the servers that
join, and a pass of `RunFrame` sends one query to each entry that is due.
-/

namespace GSMaster.Registry

open GSMaster.Text GSMaster.Net GSMaster.Games GSMaster.Library ServerList

/-! ## The messages of the operations -/

/-- Some messages to one address: no more than so many, and none longer than a query. -/
structure Brief (addr : InAddr) (count : Nat) (datagrams : List Datagram) : Prop where
  home : ∀ datagram ∈ datagrams, datagram.dest.sinAddr = addr
  few : datagrams.length ≤ count
  short : ∀ datagram ∈ datagrams, datagram.bytes.length < maxGspyVal

theorem Brief.nil (addr : InAddr) (count : Nat) : Brief addr count [] :=
  ⟨fun _ member => (nomatch member), Nat.zero_le _, fun _ member => (nomatch member)⟩

theorem Brief.append {addr : InAddr} {count count' : Nat} {early late : List Datagram}
    (first : Brief addr count early) (second : Brief addr count' late) :
    Brief addr (count + count') (early ++ late) where
  home := List.forall_mem_append.mpr ⟨first.home, second.home⟩
  few := by
    rw [List.length_append]
    exact Nat.add_le_add first.few second.few
  short := List.forall_mem_append.mpr ⟨first.short, second.short⟩

theorem Brief.mono {addr : InAddr} {count count' : Nat} {datagrams : List Datagram}
    (brief : Brief addr count datagrams) (more : count ≤ count') : Brief addr count' datagrams :=
  ⟨brief.home, brief.few.trans more, brief.short⟩

theorem Brief.single {addr : InAddr} {datagram : Datagram} (home : datagram.dest.sinAddr = addr)
    (short : datagram.bytes.length < maxGspyVal) : Brief addr 1 [datagram] :=
  ⟨List.forall_mem_singleton.mpr home, Nat.le_refl 1, List.forall_mem_singleton.mpr short⟩

/-- An operation that adds some brief messages to those that were sent. -/
def Speaks (addr : InAddr) (count : Nat) (reg reg' : ServerList) : Prop :=
  ∃ said, reg'.sent = reg.sent ++ said ∧ Brief addr count said

theorem Speaks.nothing {addr : InAddr} {count : Nat} {reg reg' : ServerList}
    (same : reg'.sent = reg.sent) : Speaks addr count reg reg' :=
  ⟨[], by rw [same, List.append_nil], Brief.nil addr count⟩

/--
The messages of an import: what is sent to the servers that join, of which each
is named by a call and was not registered, or waited for its shutdown.
-/
structure Greets (cfg : Config) (reg : ServerList) (calls : List (Env × AddCall))
    (datagrams : List Datagram) : Prop where
  said : datagrams = (joining cfg reg calls).flatMap (Arrival.sends cfg)
  home : ∀ datagram ∈ datagrams, ∃ arrival ∈ joining cfg reg calls,
    (arrival.env, arrival.call) ∈ calls ∧ arrival.call.key ∉ reg.heldKeys ∧
      arrival.server cfg ∈ (addServers cfg calls reg).servers ∧
      datagram.dest.sinAddr = arrival.call.sender.sinAddr

theorem Greets.nothing (cfg : Config) (reg : ServerList) : Greets cfg reg [] [] :=
  ⟨rfl, fun _ member => nomatch member⟩

end GSMaster.Registry
