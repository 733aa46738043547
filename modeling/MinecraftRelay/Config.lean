/-
  File:      Config.lean
  Subject:   THE PROXY LIST OF A CONFIGURATION (src/config.c: config_proxy_parse).

  The parser drops the items of the proxy list that are not well formed, turns a single virtual host
  into a list of one, and refuses a list in which a virtual host occurs twice, whatever the case of
  its letters.  The tree is that of cJSON: an object is a list of members, a name may occur twice,
  and a lookup finds the first.

  * `configProxyParse_distinct` -- no two virtual hosts of an accepted list are equal up to case.

  A string is what its C string is.  A failed allocation is an error of its own and is left out; an
  accepted configuration had none.
-/
import Mathlib.Data.List.Nodup
import MinecraftRelay.Resolver.Records

namespace MinecraftRelay

/-! ## 1. The tree -/

/-- A `cJSON` node as the parser makes it. -/
inductive Json where
  | null
  | bool (value : Bool)
  | number (value : Rat)
  | string (value : Bytes)
  | array (items : List Json)
  | object (members : List (Bytes × Json))

namespace Json

/-- The children of a node, for `cJSON_ArrayForEach`. -/
def child : Json → List Json
  | array items => items
  | object members => members.map Prod.snd
  | _ => []

/-- `cJSON_GetObjectItemCaseSensitive`: the first member of that name.  The children of an array
    have no names. -/
def get (name : Bytes) : Json → Option Json
  | object members => (members.find? (·.1 = name)).map Prod.snd
  | _ => none

/-- `cJSON_DeleteItemFromObjectCaseSensitive` and `cJSON_AddArrayToObject`: the first member of that
    name goes, the new one is the last. -/
def replace (name : Bytes) (items : List Json) : Json → Json
  | object members => object (members.eraseP (·.1 = name) ++ [(name, array items)])
  | json => json

/-- `valuestring`, which other nodes do not have. -/
def valuestring : Json → Option Bytes
  | string value => some value
  | _ => none

def isString (json : Json) : Bool := json.valuestring.isSome

def isArray : Json → Bool
  | array _ => true
  | _ => false

/-- `valueint`: the number cut to an `int`. -/
def valueint (value : Rat) : Int :=
  if value ≥ intMax then intMax
  else if value ≤ intMin then intMin
  else if value ≥ 0 then value.floor
  else value.ceil

end Json

/-! ## 2. The parser -/

/-- `config_port_extract`: a whole number in range. -/
def configPortExtract : Json → Bool
  | .number value => decide (value ≥ 0) && decide (value ≤ 65535) && value.den = 1
  | _ => false

/-- `CONF_ADDRESSMAXLEN`. -/
def confAddressmaxlen : Nat := 1024

/-- The errors of `config_proxy_parse`; `fault` is the read of a `NULL` string. -/
inductive ConfError where
  | ecproxy
  | ecproxydup (duperr : Bytes)
  | fault
deriving Repr, DecidableEq

/-- The virtual hosts of one item, before anything else is looked at. -/
def configProxyVhost (single : Json) : Option Json :=
  match single.get (ascii "vhost") with
  | some (.array members) =>
    if members.all Json.isString && members.length ≠ 0 then some single else none
  | some (.string vhost) => some (single.replace (ascii "vhost") [.string vhost])
  | _ => none

/-- One item of the list, if it stays. -/
def configProxyItem (single : Json) : Option Json :=
  match configProxyVhost single with
  | none => none
  | some single =>
    match single.get (ascii "address") with
    | some (.string _) =>
      match single.get (ascii "port") with
      | some port => if configPortExtract port then some single else none
      | none => some single
    | _ => none

/-- The nodes that the duplicate check and the table walk over. -/
def vhostNodes (item : Json) : List Json :=
  match item.get (ascii "vhost") with
  | some vhosts => vhosts.child
  | none => []

/-- `strcasecmp` is zero. -/
def strcaseEq (left right : Bytes) : Bool := left.map asciiLower = right.map asciiLower

/-- The duplicate check, with the names it has seen. -/
def configProxyDupdet (namelist : List Bytes) : List Json → Except ConfError (List Bytes)
  | [] => .ok namelist
  | node :: nodes =>
    match node.valuestring with
    | none => .error .fault
    | some vhost =>
      if namelist.any (strcaseEq · vhost) then
        .error (.ecproxydup (vhost.take (confAddressmaxlen - 1)))
      else configProxyDupdet (namelist ++ [vhost]) nodes

/-- `config_proxy_parse`. -/
def configProxyParse (src : List Json) : Except ConfError (List Json) :=
  let result := src.filterMap configProxyItem
  if result.isEmpty then .error .ecproxy
  else
    match configProxyDupdet [] (result.flatMap vhostNodes) with
    | .error error => .error error
    | .ok _ => .ok result

/-! ## 3. What is accepted -/

/-- The virtual hosts of an item. -/
def vhostStrings (item : Json) : List Bytes := (vhostNodes item).filterMap Json.valuestring

theorem strcaseEq_iff {left right : Bytes} :
    strcaseEq left right = true ↔ left.map asciiLower = right.map asciiLower := decide_eq_true_iff

/-- The check passes only names that are distinct up to case. -/
theorem configProxyDupdet_distinct {nodes : List Json} {namelist names : List Bytes}
    (h : configProxyDupdet namelist nodes = .ok names)
    (hdistinct : (namelist.map (List.map asciiLower)).Nodup) :
    names = namelist ++ nodes.filterMap Json.valuestring ∧
      (names.map (List.map asciiLower)).Nodup := by
  induction nodes generalizing namelist with
  | nil =>
    cases h
    exact ⟨(List.append_nil _).symm, hdistinct⟩
  | cons node nodes ih =>
    unfold configProxyDupdet at h
    cases hnode : node.valuestring with
    | none =>
      rw [hnode] at h
      cases h
    | some vhost =>
      rw [hnode] at h
      dsimp only at h
      split at h
      · cases h
      rename_i hnew
      have hfresh : vhost.map asciiLower ∉ namelist.map (List.map asciiLower) := by
        intro hm
        obtain ⟨name, hname, he⟩ := List.mem_map.1 hm
        exact hnew (List.any_eq_true.2 ⟨name, hname, strcaseEq_iff.2 he⟩)
      have hlonger : ((namelist ++ [vhost]).map (List.map asciiLower)).Nodup := by
        rw [List.map_append, List.map_singleton]
        exact List.nodup_append.2 ⟨hdistinct, List.nodup_singleton _, fun a ha b hb hab =>
          hfresh (List.mem_singleton.1 hb ▸ hab ▸ ha)⟩
      obtain ⟨hnames, hall⟩ := ih h hlonger
      refine ⟨?_, hall⟩
      rw [hnames, List.filterMap_cons_some hnode, List.append_assoc, List.singleton_append]

/-- No two virtual hosts of an accepted list are equal up to case. -/
theorem configProxyParse_distinct {src items : List Json} (h : configProxyParse src = .ok items) :
    ((items.flatMap vhostStrings).map (List.map asciiLower)).Nodup := by
  unfold configProxyParse at h
  dsimp only at h
  split at h
  · cases h
  split at h
  · cases h
  rename_i names hdupdet
  cases h
  obtain ⟨hnames, hdistinct⟩ := configProxyDupdet_distinct hdupdet List.nodup_nil
  rw [hnames, List.nil_append, List.filterMap_flatMap] at hdistinct
  exact hdistinct

end MinecraftRelay
