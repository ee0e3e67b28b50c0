/-
# Secret values

Credentials of a provider and settings of the proxy, in the spellings that different
charts expect.
-/

import PlatformApps.Values.Basic

namespace PlatformApps

/-- Do the secret values hold the proxy settings? Only clusters that cannot reach the
internet on their own need them. -/
def needsProxySecret (facts : ProviderFacts) (proxy : ProxySettings) : Bool :=
  !proxy.isEmpty && (facts.isPrivate || facts.requiresProxy)

/-- The proxy settings for a cluster. -/
def proxySecretValues (spec : ClusterSpec) (proxy : ProxySettings) : Json :=
  let exceptions := Json.str (proxyExceptions spec proxy.noProxy)
  let entry (name : String) (value : Json) : Json :=
    .ofFields [("name", .str name), ("value", value)]
  .ofFields [
    ("no_proxy", exceptions),
    ("http_proxy", .str proxy.httpProxy),
    ("https_proxy", .str proxy.httpsProxy),
    ("cluster", .ofFields [
      ("proxy", .ofFields [
        ("noProxy", exceptions),
        ("http", .str proxy.httpProxy),
        ("https", .str proxy.httpsProxy)])]),
    ("env", .arr [
      entry "NO_PROXY" exceptions,
      entry "HTTP_PROXY" (.str proxy.httpProxy),
      entry "HTTPS_PROXY" (.str proxy.httpsProxy)])]

/-- Credentials for an OpenStack cloud. -/
structure OpenStackCloud where
  authUrl : String := ""
  username : String := ""
  password : String := ""
  userDomainName : String := ""
  projectId : String := ""
  regionName : String := ""

namespace OpenStackCloud

def authReader : Yaml.Reader OpenStackCloud := fun targets node => do
  let fields ← Yaml.Reader.fields
    ["auth_url", "username", "password", "user_domain_name", "project_id"] targets node
  let text (name : String) := Yaml.Reader.defaulted targets fields name "" Yaml.Reader.text
  pure {
    authUrl := ← text "auth_url"
    username := ← text "username"
    password := ← text "password"
    userDomainName := ← text "user_domain_name"
    projectId := ← text "project_id" }

def reader : Yaml.Reader OpenStackCloud := fun targets node => do
  let fields ← Yaml.Reader.fields ["auth", "region_name"] targets node
  let cloud ← Yaml.Reader.defaulted targets fields "auth" {} authReader
  pure { cloud with
    regionName := ← Yaml.Reader.defaulted targets fields "region_name" "" Yaml.Reader.text }

/-- The clouds of a credentials file. -/
def cloudsReader : Yaml.Reader (Table String OpenStackCloud) := fun targets node => do
  let fields ← Yaml.Reader.fields ["clouds"] targets node
  Yaml.Reader.defaulted targets fields "clouds" ∅ (.table reader)

end OpenStackCloud

/-- Credentials and networks for the cloud controller of OpenStack, from the bytes of a
credentials file. -/
def openStackSecretValues (facts : ProviderFacts) (file : List UInt8) : Outcome Json := do
  let unreadable := Failure.yaml "the credentials cannot be read"
  let text ← match Text.Utf8.decode? file with
    | some text => .ok text
    | none => .error unreadable
  let clouds ← match OpenStackCloud.cloudsReader.read? text with
    | some clouds => .ok clouds
    | none => .error unreadable
  let cloud ← match clouds.find? "openstack" with
    | some cloud => .ok cloud
    | none => .error (.validation (.noCloud "openstack"))
  let networkName :=
    match facts.object with
    | some object => Provider.textAt object ["status", "externalNetwork", "name"]
    | none => ""
  pure (.ofFields [
    ("global", .ofFields [
      ("auth-url", .str cloud.authUrl),
      ("username", .str cloud.username),
      ("password", .str cloud.password),
      ("tenant-id", .str cloud.projectId),
      ("domain-name", .str cloud.userDomainName),
      ("region", .str cloud.regionName)]),
    ("networking", .ofFields [
      ("ipv6-support-disabled", .bool true),
      ("public-network-name", .str networkName)]),
    ("loadBalancer", .ofFields [
      ("internal-lb", .bool false),
      ("floating-network-id", .str facts.externalNetworkId),
      ("network-id", .str facts.networkId),
      ("subnet-id", .str facts.subnetId)])])

/-- Credentials and site for the cloud controller of a cloud director. -/
def cloudDirectorSecretValues (object : Json) (refreshToken : String) : Json :=
  let text (path : List String) : Json := .str (Provider.textAt object path)
  .ofFields [
    ("basicAuthSecret", .ofFields [("refreshToken", .str refreshToken)]),
    ("vcdConfig", .ofFields [
      ("site", text ["spec", "site"]),
      ("org", text ["spec", "org"]),
      ("ovdc", text ["spec", "ovdc"]),
      ("ovdcNetwork", text ["spec", "ovdcNetwork"]),
      ("vipSubnet", text ["spec", "loadBalancerConfigSpec", "vipSubnet"]),
      ("clusterid", text ["spec", "rdeId"]),
      ("vAppName", text ["metadata", "name"])])]

end PlatformApps
