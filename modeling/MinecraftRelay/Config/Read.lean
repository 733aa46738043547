/-
  File:      Config/Read.lean
  Subject:   A CONFIGURATION AND THE FILE IT COMES FROM (src/config.c: config_parse, config_read,
             config_icon_load, config_clone; src/basic.c: base64_encode, resolve_path).

  A configuration is read from the bytes of its file, unless these are the bytes of the last
  configuration that was put to use.  The icon is a second file, read after it.

  The JSON text itself is parsed by a library: `jsonParse` is its answer.  What the system answers
  (the file, whether memory is left) is an argument.
-/
import MinecraftRelay.Config

namespace MinecraftRelay

/-! ## 1. The record -/

/-- `conf`.  A cache holds the bytes of a file, if any. -/
structure Conf where
  logFilename : Bytes
  logLevel : Nat
  listenAddress : Bytes
  listenPort : Nat
  metricsInterval : Nat
  iconPath : Option Bytes
  iconB64 : Option Bytes
  iconCache : Option Bytes
  proxy : List Json

/-- `conf_error`, as far as `config_read` reports it; `proxy` is an error of `config_proxy_parse`.
    -/
inductive ConfReadError where
  | eropenfail
  | eropenempty
  | eropenlarge
  | ermemory
  | erparse
  | ecmemory
  | eclistenport
  | ecmetrics
  | ecproxy
  | proxy (error : ConfError)
deriving Repr, DecidableEq

/-- `freadall_error`. -/
inductive FreadallError where
  | erfail
  | elarge
  | enomem
deriving Repr, DecidableEq

/-! ## 2. The parser -/

/-- `CONF_METRICS_MINIMUM_INTERVAL` and `CONF_METRICS_MAXIMUM_INTERVAL`. -/
def confMetricsMinimumInterval : Nat := 300

@[inherit_doc confMetricsMinimumInterval]
def confMetricsMaximumInterval : Nat := 86400

section

variable (json : Json)

/-- The text at `section.name`, or the default. -/
def configText (group name : Bytes) (default : Bytes) : Bytes :=
  (((json.get group).bind (Json.get name)).bind Json.valuestring).getD default

/-- The log level, a `uint8_t`. -/
def configLogLevel : Nat :=
  match (json.get (ascii "log")).bind (Json.get (ascii "level")) with
  | some (.number value) => (Json.valueint value % 256).toNat
  | _ => 2

/-- The port to listen at. -/
def configListenPort : Except ConfReadError Nat :=
  match (json.get (ascii "listen")).bind (Json.get (ascii "port")) with
  | none => .ok 25565
  | some (.number value) =>
    if configPortExtract (.number value) then .ok (Json.valueint value).toNat
    else .error .eclistenport
  | some _ => .error .eclistenport

/-- The interval of the metrics: zero, or a whole number of seconds in range. -/
def configMetricsInterval : Except ConfReadError Nat :=
  match json.get (ascii "metrics") with
  | none => .ok 0
  | some (.object members) =>
    match (Json.object members).get (ascii "interval") with
    | none => .ok 0
    | some (.number interval) =>
      if interval < 0 ∨ interval > confMetricsMaximumInterval ∨
          (interval > 0 ∧ interval < confMetricsMinimumInterval) ∨ interval.den ≠ 1 then
        .error .ecmetrics
      else .ok interval.num.toNat
    | some _ => .error .ecmetrics
  | some _ => .error .ecmetrics

/-- The path of the icon, if it is not empty. -/
def configIconPath : Option Bytes :=
  match (json.get (ascii "icon")).bind Json.valuestring with
  | some [] | none => none
  | some path => some path

/-- The proxy list. -/
def configProxy : Except ConfReadError (List Json) :=
  match json.get (ascii "proxy") with
  | some (.array (item :: items)) =>
    match configProxyParse (item :: items) with
    | .ok proxy => .ok proxy
    | .error error => .error (.proxy error)
  | _ => .error .ecproxy

/-- `config_parse`, of a text that is JSON. -/
def configParse (allocated : Bool) : Except ConfReadError Conf := do
  if allocated = false then throw .ecmemory
  let listenPort ← configListenPort json
  let metricsInterval ← configMetricsInterval json
  let proxy ← configProxy json
  pure
    { logFilename :=
        configText json (ascii "log") (ascii "filename") (ascii "/var/log/mcrelay/access.log")
      logLevel := configLogLevel json
      listenAddress := configText json (ascii "listen") (ascii "address") (ascii "::")
      listenPort, metricsInterval, proxy
      iconPath := configIconPath json
      iconB64 := none
      iconCache := none }

end

/-- `conf_read_status`, with what comes with it. -/
inductive ConfRead where
  | error (error : ConfReadError)
  | unchanged
  | changed (config : Conf) (cache : Bytes)

/-- `config_read`; `file` is the answer of `freadall`. -/
def configRead (jsonParse : Bytes → Option Json) (activeCache : Option Bytes)
    (file : Except FreadallError Bytes) (allocated : Bool) : ConfRead :=
  match file with
  | .error .erfail => .error .eropenfail
  | .error .elarge => .error .eropenlarge
  | .error .enomem => .error .ermemory
  | .ok [] => .error .eropenempty
  | .ok raw =>
    if activeCache = some raw then .unchanged
    else
      match jsonParse raw with
      | none => .error .erparse
      | some json =>
        match configParse json allocated with
        | .error error => .error error
        | .ok config => .changed config raw

section

variable {jsonParse : Bytes → Option Json} {activeCache : Option Bytes}
  {file : Except FreadallError Bytes} {allocated : Bool}

/-- What is read anew comes from bytes other than those in the cache. -/
theorem configRead_changed {config : Conf} {cache : Bytes}
    (h : configRead jsonParse activeCache file allocated = .changed config cache) :
    file = .ok cache ∧ activeCache ≠ some cache ∧
      ∃ json, jsonParse cache = some json ∧ configParse json allocated = .ok config := by
  unfold configRead at h
  split at h
  all_goals try cases h
  rename_i raw _
  split at h
  · cases h
  rename_i hcache
  split at h
  · cases h
  rename_i json hjson
  split at h
  · cases h
  rename_i config' hparse
  cases h
  exact ⟨rfl, hcache, json, hjson, hparse⟩

/-- What is not read anew is what the cache was taken from. -/
theorem configRead_unchanged (h : configRead jsonParse activeCache file allocated = .unchanged) :
    ∃ raw, raw ≠ [] ∧ file = .ok raw ∧ activeCache = some raw := by
  unfold configRead at h
  split at h
  all_goals try cases h
  rename_i raw hraw
  split at h
  · rename_i hcache
    exact ⟨raw, hraw, rfl, hcache⟩
  split at h
  · cases h
  split at h
  · cases h
  · cases h

end

/-! ## 3. The icon -/

/-- The alphabet of `base64_encode`. -/
def base64Digit (index : UInt8) : UInt8 :=
  (ascii "ABCDEFGHIJKLMNOPQRSTUVWXYZabcdefghijklmnopqrstuvwxyz0123456789+/").getD index.toNat 0

/-- `base64_encode` into a buffer that is large enough. -/
def base64Encode : Bytes → Bytes
  | b0 :: b1 :: b2 :: rest =>
    [base64Digit ((b0 &&& 0xFC) >>> 2),
      base64Digit (((b0 &&& 0x03) <<< 4) ||| ((b1 &&& 0xF0) >>> 4)),
      base64Digit (((b1 &&& 0x0F) <<< 2) ||| ((b2 &&& 0xC0) >>> 6)), base64Digit (b2 &&& 0x3F)] ++
      base64Encode rest
  | [b0, b1] =>
    [base64Digit ((b0 &&& 0xFC) >>> 2),
      base64Digit (((b0 &&& 0x03) <<< 4) ||| ((b1 &&& 0xF0) >>> 4)),
      base64Digit ((b1 &&& 0x0F) <<< 2), 61]
  | [b0] => [base64Digit ((b0 &&& 0xFC) >>> 2), base64Digit ((b0 &&& 0x03) <<< 4), 61, 61]
  | [] => []

/-- The size of the text for an icon of `size` bytes. -/
def base64Size (size : Nat) : Nat := (size / 3 + if size % 3 > 0 then 1 else 0) * 4

/-- `config_icon_load`: whether the icon is ready, and the configuration. -/
def configIconLoad (config : Conf) (file : Except FreadallError Bytes) (allocated : Bool) :
    Bool × Conf :=
  if config.iconPath = none then (true, { config with iconB64 := none, iconCache := none })
  else
    match file with
    | .error _ | .ok [] => (false, config)
    | .ok raw =>
      if config.iconCache = some raw then (true, config)
      else if base64Size raw.length > confIconB64max ∨ allocated = false then (false, config)
      else (true, { config with iconB64 := some (base64Encode raw), iconCache := some raw })

/-- Two configurations that differ in their icon at most. -/
def Conf.SameUpToIcon (c d : Conf) : Prop :=
  d = { c with iconB64 := d.iconB64, iconCache := d.iconCache }

theorem Conf.SameUpToIcon.refl (c : Conf) : c.SameUpToIcon c := rfl

theorem configIconLoad_sameUpToIcon (config : Conf) (file : Except FreadallError Bytes)
    (allocated : Bool) : config.SameUpToIcon (configIconLoad config file allocated).2 := by
  unfold configIconLoad
  split
  · rfl
  split
  · rfl
  · rfl
  split
  · rfl
  split
  · rfl
  · rfl

theorem Conf.SameUpToIcon.proxy {c d : Conf} (h : c.SameUpToIcon d) : d.proxy = c.proxy := by
  unfold SameUpToIcon at h
  rw [h]

/-! ## 4. Copies and paths -/

/-- `config_clone`: an exact copy, if there is memory for it. -/
def configClone (source : Conf) (allocated : Bool) : Option Conf :=
  if allocated then some source else none

theorem configClone_eq_some {source config : Conf} {allocated : Bool}
    (h : configClone source allocated = some config) : config = source := by
  unfold configClone at h
  split at h
  · exact (Option.some.inj h).symm
  · cases h

/-- `resolve_path` into an array of `PATH_MAX` bytes. -/
def resolvePath (path workingDirectory : Bytes) : Bytes :=
  (if path.head? = some 47 then path else workingDirectory ++ [47] ++ path).take (pathMax - 1)

end MinecraftRelay
