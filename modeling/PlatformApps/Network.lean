/-
# Networks of a cluster

IPv4 addresses and blocks, the address of the name service inside a block of service
addresses, and the list of hosts that a workload must reach without the proxy.
-/

import PlatformApps.Failure
import PlatformApps.Resource.Cluster
import PlatformApps.Text.Blank

namespace PlatformApps

structure Ipv4 where
  first : UInt8
  second : UInt8
  third : UInt8
  fourth : UInt8
  deriving DecidableEq, Repr

namespace Ipv4

/-- Text in front of every occurrence of a character, and the text behind the last one. -/
def parts (separator : Char) : List Char → List (List Char)
  | [] => [[]]
  | char :: rest =>
    if char = separator then [] :: parts separator rest
    else
      match parts separator rest with
      | [] => [[char]]
      | part :: others => (char :: part) :: others

/-- The value of one or more decimal digits. -/
def decimal? (chars : List Char) : Option Nat :=
  if chars.isEmpty || !chars.all Char.isDigit then none
  else some (chars.foldl (fun value char => value * 10 + (char.toNat - 48)) 0)

/-- One of the four numbers of an address: at most three digits, none of them a
superfluous zero. -/
def octet? (chars : List Char) : Option UInt8 :=
  let padded := chars.head? == some '0' && chars.length > 1
  if padded || chars.length > 3 then none
  else ((decimal? chars).filter (· ≤ 255)).map UInt8.ofNat

def parse? (chars : List Char) : Option Ipv4 :=
  match (parts '.' chars).mapM octet? with
  | some [a, b, c, d] => some ⟨a, b, c, d⟩
  | _ => none

def render (address : Ipv4) : String :=
  s!"{address.first.toNat}.{address.second.toNat}.{address.third.toNat}.{address.fourth.toNat}"

/-- The address as a number of 32 bits. -/
def toNat (address : Ipv4) : Nat :=
  ((address.first.toNat * 256 + address.second.toNat) * 256 + address.third.toNat) * 256 +
    address.fourth.toNat

end Ipv4

/-- An address with the length of its network part. -/
structure Ipv4Block where
  address : Ipv4
  length : Nat
  deriving DecidableEq, Repr

namespace Ipv4Block

/-- The length of a network part, at most 32; a plus sign and zeros in front are allowed. -/
def length? (chars : List Char) : Option Nat :=
  let digits := match chars with
    | '+' :: rest => rest
    | _ => chars
  (Ipv4.decimal? digits).filter (· ≤ 32)

/-- Reads a block with white space around it. -/
def parse? (text : String) : Option Ipv4Block := do
  let (address, length) ← Text.cutAt? '/' (Text.trim text).toList
  pure { length := ← length? length, address := ← Ipv4.parse? address }

end Ipv4Block

/-- Last number of the name service's address. -/
def nameServiceOctet : UInt8 := 10

/-- Address of the name service in a block of service addresses: the tenth of the block,
whose own address has to end in zero. -/
def nameServiceAddress (serviceCidr : String) : Outcome String :=
  match Ipv4Block.parse? serviceCidr with
  | none => .error (.validation (.malformedServiceCidr serviceCidr))
  | some block =>
    if block.address.fourth = 0 then
      .ok { block.address with fourth := nameServiceOctet }.render
    else .error (.validation (.unalignedServiceCidr serviceCidr))

/-- The block of service addresses that a control plane object pins. -/
def pinnedServiceCidr (controlPlane : Json) : Option String :=
  ((controlPlane.path?
    ["spec", "kubeadmConfigSpec", "clusterConfiguration", "networking", "serviceSubnet"]).bind
      Json.text?).filter fun text => !text.isEmpty

/-- Hosts that are reached without the proxy from inside the cluster: its own names and
addresses, what the management cluster excludes, and the local host. -/
def proxyExceptions (spec : ClusterSpec) (exceptions : String) : String :=
  let hosts := [spec.serviceDomain] ++ spec.serviceCidrs ++ spec.podCidrs ++
    [spec.controlPlaneHost, exceptions, "svc,127.0.0.1,localhost"]
  ",".intercalate (hosts.filter fun host => !host.isEmpty)

end PlatformApps
