/-
# The command line

The operator is run with options that become its settings; two further commands show the
version and count the clusters.
-/

import PlatformApps.CommandLine.Argument
import PlatformApps.Endpoints
import PlatformApps.Naming
import PlatformApps.Network
import PlatformApps.Settings

namespace PlatformApps

namespace CommandLine

def runSpecs : List OptionSpec := [
  { name := "namespace", standIn := some "OPERATOR_NAMESPACE", default := some "default" },
  { name := "base-domain", standIn := some "BASE_DOMAIN", isRequired := true },
  { name := "cluster-ip-range", standIn := some "CLUSTER_IP_RANGE",
    default := some "172.31.0.0/16" },
  { name := "dns-ip", standIn := some "DNS_IP" },
  { name := "registry-domain", standIn := some "REGISTRY_DOMAIN",
    default := some "gsoci.azurecr.io" },
  { name := "provider", standIn := some "PROVIDER", default := some "" },
  { name := "default-pod-cidr", standIn := some "DEFAULT_POD_CIDR", default := some "" },
  { name := "http-proxy", standIn := some "HTTP_PROXY", default := some "" },
  { name := "https-proxy", standIn := some "HTTPS_PROXY", default := some "" },
  { name := "no-proxy", standIn := some "NO_PROXY", default := some "" },
  { name := "app-config", standIn := some "APP_CONFIG", kind := .path, isRequired := true },
  { name := "metrics-port", standIn := some "METRICS_PORT", kind := .port,
    default := some "8080" },
  { name := "watch-namespace", standIn := some "WATCH_NAMESPACE" },
  { name := "log-json", standIn := some "LOG_JSON", kind := .switch, default := some "false" }]

def infoSpecs : List OptionSpec := [
  { name := "namespace", standIn := some "WATCH_NAMESPACE" }]

/-- Environment variables that stand in for options. -/
def standIns : List String := (runSpecs ++ infoSpecs).filterMap OptionSpec.standIn

/-- An option in the overview of options. -/
def OptionSpec.line (spec : OptionSpec) : String :=
  let value := if spec.kind = .switch then "" else " <VALUE>"
  let note :=
    if spec.isRequired then "  (required)"
    else (spec.default.map fun default => s!"  [default: {default}]").getD ""
  "  --" ++ spec.name ++ value ++ note

/-- The overview of commands and options. -/
def overview : List String :=
  ["Usage: " ++ projectName ++ " <COMMAND>", "", "Commands:",
    "  run      Run the operator",
    "  version  Show the version",
    "  info     Count the clusters",
    "  help     Show this overview", "", "Options of run:"] ++
  runSpecs.map OptionSpec.line ++ ["", "Options of info:"] ++ infoSpecs.map OptionSpec.line

/-- What is said about a command line that is refused. -/
def Refusal.message : Refusal → String
  | .help | .helpForNothing => "\n".intercalate overview
  | .version => projectName ++ " " ++ operatorVersion
  | .unknownArgument => "an argument is not known"
  | .unknownCommand => "a command is not known"
  | .missingOption => "a required option is missing"
  | .missingValue => "an option has no value"
  | .impossibleValue => "an option has a value that does not exist"
  | .unusableValue => "an option has a value that cannot be used"
  | .needlessValue => "a switch has a value"
  | .repeatedOption => "an option is given twice"

/-- Was this asked for, rather than a fault? -/
def Refusal.isAnswer (refusal : Refusal) : Bool := refusal = .help || refusal = .version

end CommandLine

/-- Options of a running operator. -/
structure RunOptions where
  /-- Namespace of the lease by which the leader is chosen. -/
  space : String
  baseDomain : String
  clusterIpRange : String
  /-- Derived from the address range when it is empty or missing. -/
  dnsIp : Option String
  registryDomain : String
  provider : String
  defaultPodCidr : String
  proxy : ProxySettings
  /-- File with the app settings. -/
  appConfig : String
  /-- Port of the health and metrics endpoints. -/
  metricsPort : Nat
  watchNamespace : Option String
  logJson : Bool
  deriving DecidableEq

namespace RunOptions

def ofGiven (given : CommandLine.Given) : RunOptions :=
  let text (name : String) : String := (given.find? name).getD ""
  { space := text "namespace"
    baseDomain := text "base-domain"
    clusterIpRange := text "cluster-ip-range"
    dnsIp := given.find? "dns-ip"
    registryDomain := text "registry-domain"
    provider := text "provider"
    defaultPodCidr := text "default-pod-cidr"
    proxy := ⟨text "http-proxy", text "https-proxy", text "no-proxy"⟩
    appConfig := text "app-config"
    metricsPort := (CommandLine.portOf? (text "metrics-port")).getD 0
    watchNamespace := given.find? "watch-namespace"
    logJson := text "log-json" = "true" }

/-- The settings that options stand for, with the content of the app settings file or the
reason why it cannot be read. -/
def settings (options : RunOptions) (file : Except String String) : Outcome Settings := do
  let isFilled := fun (text : String) => !text.isEmpty
  let dnsIp ←
    match options.dnsIp.filter isFilled with
    | some address => pure address
    | none => nameServiceAddress options.clusterIpRange
  let apps ←
    match file with
    | .ok text => AppSettings.ofYaml text
    | .error detail => .error (.config (.unreadable options.appConfig detail))
  let settings : Settings := {
    baseDomain := options.baseDomain
    clusterIpRange := options.clusterIpRange
    dnsIp
    registryDomain := options.registryDomain
    provider := options.provider
    defaultPodCidr := options.defaultPodCidr
    proxy := options.proxy
    appDefaults := apps.default
    overrides := apps.overrides
    watchNamespace := options.watchNamespace.filter isFilled }
  settings.validate
  pure settings

end RunOptions

inductive Command where
  | run (options : RunOptions)
  | version
  /-- Counts clusters, possibly only those of a namespace. -/
  | info (space : Option String)
  deriving DecidableEq

namespace Command

def names : List String := ["run", "version", "info", "help"]

/-- Help about commands: none of them has commands of its own. -/
def helpAbout : List String → CommandLine.Refusal
  | [] => .help
  | [name] => if names.contains name then .help else .unknownCommand
  | _ => .unknownCommand

/-- The command of a command line. -/
def parse (environment : String → Option String) : List String → Except CommandLine.Refusal Command
  | [] => .error .helpForNothing
  | "run" :: arguments =>
    (CommandLine.readOptions CommandLine.runSpecs environment arguments).map fun given =>
      .run (RunOptions.ofGiven given)
  | "version" :: arguments =>
    (CommandLine.readOptions [] environment arguments).map fun _ => .version
  | "info" :: arguments =>
    (CommandLine.readOptions CommandLine.infoSpecs environment arguments).map fun given =>
      .info (given.find? "namespace")
  | "help" :: arguments => .error (helpAbout arguments)
  | argument :: rest =>
    match CommandLine.ArgumentForm.of argument with
    | .separator =>
      match rest with
      | [] => .error .helpForNothing
      | name :: _ => .error (if names.contains name then .unknownArgument else .unknownCommand)
    | .long "help" none | .short ('h' :: _) => .error .help
    | .long "version" none | .short ('V' :: _) => .error .version
    | .long "help" (some _) | .long "version" (some _) => .error .needlessValue
    | .long .. | .short _ => .error .unknownArgument
    | .plain => .error .unknownCommand

end Command

end PlatformApps
