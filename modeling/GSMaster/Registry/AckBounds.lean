import GSMaster.Registry.Server

/-!
# The buffers that a reply is copied into

`Ack` copies with sizes and lengths that the sender of the reply chooses. The
predicates here say when the copies stay inside the entry and the lookups of
the cross check stay inside their own buffers.
-/

namespace GSMaster.Registry

open GSMaster.Text GSMaster.Games

/-- The size of `serverInfo`. -/
def serverInfoSize : Nat := 4000

/-- The three `strcpy` of `Parse_NQData` stay inside their fields. -/
def parseNQDataFits (data : List UInt8) (dglen offset : Nat) : Bool :=
  let data := data.drop (offset - 1)
  let ip := cstr data
  ip.length == 0 || (ip.length < netquakeMaxstr &&
    if ip.length + 1 < dglen then
      let data := data.drop (ip.length + 1)
      let hostname := cstr data
      hostname.length == 0 || !(hostname.length < dglen) || (hostname.length < netquakeMaxstr &&
        let mapname := cstr (data.drop (hostname.length + 1))
        !(hostname.length + mapname.length < dglen) || mapname.length < netquakeMaxstr)
    else true)

/-- What the reply of a legacy game writes stays inside the entry. -/
def legacyReplyFits (dataPacket : List UInt8) (dglen : UInt64) : Bool :=
  if 6 < dglen then
    if memcmpEq dataPacket printstring && 0 < dglen - 9 then
      strlcpyStores (cstr (dataPacket.drop 9)) (dglen - 9).toNat ≤ serverInfoSize
    else if memcmpEq dataPacket hexen2ServerinfoReply then
      parseNQDataFits dataPacket dglen.toNat 6
    else if memcmpEq dataPacket quake1ServerinfoReply then
      parseNQDataFits dataPacket dglen.toNat 6
    else true
  else true

/-- `Ack` writes inside its buffers when it has matched this entry. -/
def ackFits (cfg : Config) (dataPacket : List UInt8) (dglen : UInt64) (server : Server) : Bool :=
  if isLegacy server.gamename then legacyReplyFits dataPacket dglen
  else
    (skipsValidation cfg.validationRequired true || answersChallengeFits (cstr dataPacket) true) &&
      strlcpyStores (cstr dataPacket) dglen.toNat ≤ serverInfoSize

end GSMaster.Registry
