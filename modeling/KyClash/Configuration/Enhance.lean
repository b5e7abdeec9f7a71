import KyClash.Configuration.Patch

/-!
# What the application sets after the overrides

The end of `enhance`: the values that the application had set for the control
plane, and the one of `dns.ipv6`, are put back into whatever the merges and
scripts of the user have made of the configuration.  Then the bind address is
widened, the proxy groups are cleaned and the entries sorted.  The order of a
mapping is not observed.
-/

namespace KyClash.Configuration

namespace Value

def untag : Value → Value
  | .tagged _ value => value.untag
  | value => value

def asBool (value : Value) : Option Bool :=
  match value.untag with
  | .bool value => some value
  | _ => none

def asStr (value : Value) : Option String :=
  match value.untag with
  | .string text => some text
  | _ => none

def asSequence (value : Value) : Option (List Value) :=
  match value.untag with
  | .sequence items => some items
  | _ => none

def asMapping (value : Value) : Option (List (Value × Value)) :=
  match value.untag with
  | .mapping entries => some entries
  | _ => none

/-- Change a sequence or a mapping under its tags. -/
def change (sequence : List Value → List Value)
    (mapping : List (Value × Value) → List (Value × Value)) : Value → Value
  | .tagged tag value => .tagged tag (value.change sequence mapping)
  | .sequence items => .sequence (sequence items)
  | .mapping entries => .mapping (mapping entries)
  | value => value

def isName (name : String) : Value → Bool
  | .string text => text == name
  | _ => false

end Value

def getName (name : String) (entries : List (Value × Value)) : Option Value :=
  (entries.find? fun entry => entry.1.isName name).map Prod.snd

/-- `CONTROL_PLANE_KEYS` with the keys of the platform. -/
def controlPlaneKeys (platform : Platform) : List String :=
  ["external-controller"] ++
    (if platform = .windows then ["external-controller-pipe"]
      else ["external-controller-unix"]) ++
    ["external-controller-cors", "secret", "mixed-port", "socks-port",
      "port"] ++
    (if platform = .windows then [] else ["redir-port"]) ++
    (if platform = .linux then ["tproxy-port"] else []) ++
    ["tun", "mode", "allow-lan", "log-level", "ipv6", "unified-delay"]

/-- `Mapping::insert`: the value of the name is replaced, or the entry is put
at the end. -/
def insertName (name : String) (value : Value) :
    List (Value × Value) → List (Value × Value)
  | [] => [(.string name, value)]
  | entry :: rest =>
    if entry.1.isName name then (entry.1, value) :: rest
    else entry :: insertName name value rest

def changeName (name : String) (change : Value → Value)
    (entries : List (Value × Value)) : List (Value × Value) :=
  entries.map fun entry =>
    if entry.1.isName name then (entry.1, change entry.2) else entry

namespace Mapping

def get (config : Mapping) (text : String) : Option Value :=
  config (.string text)

def empty : Mapping := fun _ => none

def insert (config : Mapping) (name : String) (value : Value) : Mapping :=
  fun key => if key.isName name then some value else config key

def remove (config : Mapping) (name : String) : Mapping :=
  fun key => if key.isName name then none else config key

def snapshot (config : Mapping) (keys : List String) : Mapping :=
  keys.foldl (fun taken key =>
    match config.get key with
    | some value => taken.insert key value
    | none => taken) empty

def enforceControlPlane (config taken : Mapping) (keys : List String) :
    Mapping :=
  taken.patchConfig (keys.foldl (fun config key =>
    if taken.has key then config else config.remove key) config)

def snapshotDnsIpv6 (config : Mapping) : Option Value := do
  let dns ← config.get "dns"
  getName "ipv6" (← dns.asMapping)

def enforceDnsIpv6 (config : Mapping) (dnsIpv6 : Option Value) : Mapping :=
  match dnsIpv6, config.get "dns" with
  | some value, some (.mapping dns) =>
    config.insert "dns" (.mapping (insertName "ipv6" value dns))
  | _, _ => config

/-- `ensure_lan_bind_address` over the test of a loopback address. -/
def ensureLanBindAddress (isLoopback : String → Bool) (config : Mapping) :
    Mapping :=
  let allowLan := ((config.get "allow-lan").bind Value.asBool).getD false
  let bound := (config.get "bind-address").bind Value.asStr
  if allowLan && bound.any isLoopback then
    config.insert "bind-address" (.string "*")
  else
    config

def itemsOf (config : Mapping) (name : String) : List Value :=
  ((config.get name).bind Value.asSequence).getD []

/-- The name of a proxy, which may be the proxy itself. -/
def proxyName : Value → Option String
  | .mapping entries => (getName "name" entries).bind Value.asStr
  | .string name => some name
  | _ => none

def groupName (item : Value) : Option String := do
  let name ← getName "name" (← item.asMapping)
  name.asStr

/-- `Vec::retain` on a plain sequence. -/
def retain (keeps : Value → Bool) : Value → Value
  | .sequence items => .sequence (items.filter keeps)
  | value => value

/-- What `cleanup_proxy_groups` does to one group. -/
def cleanGroup (providers allowed : List String)
    (group : List (Value × Value)) : List (Value × Value) :=
  let known (provider : Value) := match provider with
    | .string name => providers.contains name
    | _ => false
  let hasValidProvider := match getName "use" group with
    | some (.sequence uses) => uses.any known
    | _ => false
  let keeps (proxy : Value) := match proxy with
    | .string name => allowed.contains name || hasValidProvider
    | _ => true
  changeName "proxies" (retain keeps) (changeName "use" (retain known) group)

def cleanupProxyGroups (config : Mapping) : Mapping :=
  let providers := (((config.get "proxy-providers").bind
    Value.asMapping).getD []).filterMap (·.1.asStr)
  let allowed := (config.itemsOf "proxies").filterMap proxyName ++
    (config.itemsOf "proxy-groups").filterMap groupName ++ providers ++
    ["DIRECT", "REJECT", "REJECT-DROP", "PASS"]
  match config.get "proxy-groups" with
  | some (.sequence groups) =>
    config.insert "proxy-groups" (.sequence (groups.map
      (Value.change id (cleanGroup providers allowed))))
  | _ => config

def handleFields : List String :=
  ["mode", "redir-port", "tproxy-port", "mixed-port", "socks-port", "port",
    "allow-lan", "log-level", "ipv6", "external-controller", "secret",
    "unified-delay"]

def defaultFields : List String :=
  ["proxies", "proxy-providers", "proxy-groups", "rule-providers", "rules"]

/-- Fields are taken out of one mapping and put into another. -/
def moveFields (fields : List String) (tables : Mapping × Mapping) :
    Mapping × Mapping :=
  fields.foldl (fun (source, target) field =>
    match source.get field with
    | some value => (source.remove field, target.insert field value)
    | none => (source, target)) tables

/-- The loop over the entries that are left: each goes to the default fields,
to the sorted entries, or nowhere.  The text of a key is read without tags. -/
def distribute (config sorted : Mapping) : Mapping × Mapping :=
  (fun key => match key.asStr with
    | some text =>
      if text ∉ defaultFields ∧ text ∉ handleFields then
        (config key).or (sorted key)
      else sorted key
    | none => sorted key,
  fun key => match key.asStr with
    | some text => if text ∈ defaultFields then config key else none
    | none => none)

def useSort (config : Mapping) : Mapping :=
  let handled := moveFields handleFields (config, empty)
  let distributed := distribute handled.1 handled.2
  (moveFields defaultFields distributed.swap).2

/-- The end of `enhance`, from the configuration before the overrides and the
one that they have produced. -/
def finish (platform : Platform) (isLoopback : String → Bool)
    (enableDnsSettings : Bool) (app overridden : Mapping) : Mapping :=
  let keys := controlPlaneKeys platform
  let dnsIpv6 := if enableDnsSettings then app.snapshotDnsIpv6 else none
  let config := overridden.enforceControlPlane (app.snapshot keys) keys
  ((config.enforceDnsIpv6 dnsIpv6).ensureLanBindAddress
    isLoopback).cleanupProxyGroups.useSort

/-! ## What each pass leaves under a text -/

variable {text : String}

private theorem getName_insertName (name : String) (value : Value)
    (entries : List (Value × Value)) :
    getName name (insertName name value entries) = some value := by
  unfold getName
  induction entries with
  | nil => simp [insertName, Value.isName]
  | cons entry rest ih =>
    rw [insertName]
    split
    · next named => simp [named]
    · next other => simpa [other] using ih

section

variable (config : Mapping)
include config

theorem get_insert (name : String) (value : Value)
    (text : String) : (config.insert name value).get text =
      if text = name then some value else config.get text := by
  simp [get, insert, Value.isName]

theorem get_remove (name text : String) : (config.remove name).get text =
      if text = name then none else config.get text := by
  simp [get, remove, Value.isName]

private theorem get_snapshot (keys : List String) (text : String) :
    (config.snapshot keys).get text =
      if text ∈ keys then config.get text else none := by
  have general (taken : Mapping) : (keys.foldl (fun taken key =>
      match config.get key with
      | some value => taken.insert key value
      | none => taken) taken).get text =
        if text ∈ keys then (config.get text).or (taken.get text)
        else taken.get text := by
    induction keys generalizing taken with
    | nil => rfl
    | cons key keys ih =>
      rw [List.foldl_cons, ih]
      by_cases same : text = key
      · subst same
        cases found : config.get text <;> simp [get_insert]
      · cases found : config.get key <;> simp [get_insert, same]
  have nothing : empty.get text = none := rfl
  rw [snapshot, general, nothing, Option.or_none]

private theorem get_enforceDnsIpv6 (dnsIpv6 : Option Value)
    (other : text ≠ "dns") :
    (config.enforceDnsIpv6 dnsIpv6).get text = config.get text := by
  unfold enforceDnsIpv6
  split
  · rw [get_insert, if_neg other]
  · rfl

private theorem dns_enforceDnsIpv6 (value : Value)
    {entries : List (Value × Value)}
    (found : (config.enforceDnsIpv6 (some value)).get "dns" =
      some (.mapping entries)) :
    getName "ipv6" entries = some value := by
  unfold enforceDnsIpv6 at found
  split at found
  · next same _ =>
    cases same
    cases found
    exact getName_insertName _ _ _
  · next others => exact absurd found (others value entries rfl)

private theorem get_cleanupProxyGroups (other : text ≠ "proxy-groups") :
    config.cleanupProxyGroups.get text = config.get text := by
  unfold cleanupProxyGroups
  split
  · rw [get_insert, if_neg other]
  · rfl

end

private theorem get_removed (config taken : Mapping) (keys : List String)
    (text : String) :
    (keys.foldl (fun config key =>
      if taken.has key then config else config.remove key) config).get text =
        if text ∈ keys ∧ taken.has text = false then none
        else config.get text := by
  induction keys generalizing config with
  | nil => simp
  | cons key keys ih =>
    rw [List.foldl_cons, ih]
    by_cases same : text = key
    · subst same
      cases present : taken.has text <;> simp [get_remove]
    · cases present : taken.has key <;> simp [get_remove, same]

private theorem get_enforceControlPlane (config app : Mapping)
    (keys : List String) (text : String) :
    (config.enforceControlPlane (app.snapshot keys) keys).get text =
      if text ∈ keys then app.get text else config.get text := by
  have extended (patch config : Mapping) : (patch.patchConfig config).get text =
      (patch.get text).or (config.get text) := by
    unfold get patchConfig
    cases patch (.string text) <;> rfl
  have present : (app.snapshot keys).has text =
      ((app.snapshot keys).get text).isSome := rfl
  rw [enforceControlPlane, extended, get_removed, present, get_snapshot]
  by_cases inside : text ∈ keys
  · cases found : app.get text <;> simp [inside]
  · simp [inside]

private theorem get_ensureLanBindAddress (isLoopback : String → Bool)
    (config : Mapping) (other : text ≠ "bind-address") :
    (config.ensureLanBindAddress isLoopback).get text = config.get text := by
  unfold ensureLanBindAddress
  dsimp only
  split
  · rw [get_insert, if_neg other]
  · rfl

private theorem get_moveFields (fields : List String)
    (tables : Mapping × Mapping) (text : String) :
    (moveFields fields tables).1.get text =
      (if text ∈ fields then none else tables.1.get text) ∧
      (moveFields fields tables).2.get text =
        if text ∈ fields then (tables.1.get text).or (tables.2.get text)
        else tables.2.get text := by
  unfold moveFields
  induction fields generalizing tables with
  | nil => exact ⟨rfl, rfl⟩
  | cons field fields ih =>
    rw [List.foldl_cons, (ih _).1, (ih _).2]
    by_cases same : text = field
    · subst same
      cases found : tables.1.get text <;>
        simp [found, get_remove, get_insert]
    · cases found : tables.1.get field <;>
        simp [found, get_remove, get_insert, same]

private theorem get_distribute (config sorted : Mapping) (text : String) :
    (distribute config sorted).1.get text =
      (if text ∉ defaultFields ∧ text ∉ handleFields then
          (config.get text).or (sorted.get text)
        else sorted.get text) ∧
      (distribute config sorted).2.get text =
        if text ∈ defaultFields then config.get text else none :=
  ⟨rfl, rfl⟩

private theorem get_useSort (config : Mapping) (text : String) :
    config.useSort.get text = config.get text := by
  have apart : ∀ field ∈ handleFields, field ∉ defaultFields := by decide
  have nothing : empty.get text = none := rfl
  rw [useSort, (get_moveFields _ _ text).2, Prod.fst_swap, Prod.snd_swap,
    (get_distribute _ _ text).1,
    (get_distribute _ _ text).2, (get_moveFields _ _ text).1,
    (get_moveFields _ _ text).2, nothing]
  by_cases default : text ∈ defaultFields
  · have unhandled : text ∉ handleFields :=
      fun member => apart text member default
    simp [default, unhandled]
  · by_cases member : text ∈ handleFields <;> simp [default, member]

/-- For every configuration before the overrides and every mapping that they
produce: the control plane is the application's, so is `dns.ipv6`, and every
other entry under a text but three is the overrides'. -/
theorem overrides_leave_control_plane (platform : Platform)
    (isLoopback : String → Bool) (enableDnsSettings : Bool)
    (app overridden : Mapping) :
    (∀ text ∈ controlPlaneKeys platform,
        (finish platform isLoopback enableDnsSettings app overridden).get text =
          app.get text) ∧
      (enableDnsSettings = true →
        ∀ value, app.snapshotDnsIpv6 = some value →
          ∀ entries,
            (finish platform isLoopback enableDnsSettings app overridden).get
                  "dns" = some (.mapping entries) →
              getName "ipv6" entries = some value) ∧
      ∀ text, text ∉ controlPlaneKeys platform →
        text ∉ ["bind-address", "dns", "proxy-groups"] →
        (finish platform isLoopback enableDnsSettings app overridden).get text =
          overridden.get text := by
  have ours : ∀ text ∈ controlPlaneKeys platform,
      text ∉ ["bind-address", "dns", "proxy-groups"] := by
    cases platform <;> decide
  have passed {text : String}
    (other : text ∉ ["bind-address", "dns", "proxy-groups"]) :
      (finish platform isLoopback enableDnsSettings app overridden).get text =
        if text ∈ controlPlaneKeys platform then app.get text
        else overridden.get text := by
    simp only [List.mem_cons, List.not_mem_nil, or_false, not_or] at other
    obtain ⟨bind, dns, groups⟩ := other
    rw [finish, get_useSort, get_cleanupProxyGroups _ groups,
      get_ensureLanBindAddress _ _ bind, get_enforceDnsIpv6 _ _ dns,
      get_enforceControlPlane]
  refine ⟨?_, ?_, ?_⟩
  · intro text member
    rw [passed (ours text member), if_pos member]
  · intro active value taken entries found
    rw [finish, get_useSort, get_cleanupProxyGroups _ (by decide),
      get_ensureLanBindAddress _ _ (by decide), active, if_pos rfl,
      taken] at found
    exact dns_enforceDnsIpv6 _ value found
  · intro text outside other
    rw [passed other, if_neg outside]

end Mapping

end KyClash.Configuration
