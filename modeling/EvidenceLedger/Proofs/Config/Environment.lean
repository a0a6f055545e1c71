import EvidenceLedger.Config.Environment
import EvidenceLedger.Proofs.Node.Allowlist
import EvidenceLedger.Proofs.Text.Trim

/-!
# What the environment says is what the node is

An identity that is written into the environment is the identity that comes out of it, whatever
stands between the entries of the lists, and nothing but the identity changes. Keys may hold equals
signs, as padding does, because only the first one of an entry divides it.

To apply an environment twice is to apply it once. Every variable sets one setting and looks at no
other, so what one of them did is still there when all are done, and doing it again changes nothing.
That is also true of an environment that makes no sense at some point: it comes to the same point
again, with the same error.
-/

namespace EvidenceLedger

namespace Override

/-! ## One setting for each variable -/

/-- The settings that there is a variable for. -/
inductive Setting where
  | nodeId
  | leader
  | privateKey
  | peers
  | allowedKeys
  | httpPort
  | commitInterval
deriving DecidableEq

namespace Setting

def Value : Setting → Type
  | .nodeId => String
  | .leader => Bool
  | .privateKey => Option String
  | .peers => List String
  | .allowedKeys => Allowlist
  | .httpPort => UInt16
  | .commitInterval => Option UInt64

/-- What a configuration has for a setting. -/
def get : (s : Setting) → NodeConfig → s.Value
  | .nodeId, c => c.identity.nodeId
  | .leader, c => c.identity.isLeader
  | .privateKey, c => c.identity.privateKeyText
  | .peers, c => c.identity.peers
  | .allowedKeys, c => c.identity.allowlist
  | .httpPort, c => c.network.httpPort
  | .commitInterval, c => c.leader.commitIntervalSecs

/-- The configuration with another value for a setting. -/
def set : (s : Setting) → s.Value → NodeConfig → NodeConfig
  | .nodeId, x, c => { c with identity := { c.identity with nodeId := x } }
  | .leader, x, c => { c with identity := { c.identity with isLeader := x } }
  | .privateKey, x, c => { c with identity := { c.identity with privateKeyText := x } }
  | .peers, x, c => { c with identity := { c.identity with peers := x } }
  | .allowedKeys, x, c => { c with identity := { c.identity with allowlist := x } }
  | .httpPort, x, c => { c with network := { c.network with httpPort := x } }
  | .commitInterval, x, c => { c with leader := ⟨x⟩ }

@[simp] theorem set_get (s : Setting) (c : NodeConfig) : s.set (s.get c) c = c := by
  cases s <;> rfl

@[simp] theorem get_set (s : Setting) (x : s.Value) (c : NodeConfig) : s.get (s.set x c) = x := by
  cases s <;> rfl

theorem get_set_of_ne {s other : Setting} (ne : s ≠ other) (x : other.Value) (c : NodeConfig) :
    s.get (other.set x c) = s.get c := by
  cases s <;> cases other
  all_goals try rfl
  all_goals exact absurd rfl ne

def entry : Setting → String × Override
  | .nodeId => ("IC_NODE_ID", Override.nodeId)
  | .leader => ("IC_LEADER", Override.leader)
  | .privateKey => ("IC_PRIVATE_KEY", Override.privateKey)
  | .peers => ("IC_PEERS", Override.peers)
  | .allowedKeys => ("IC_ALLOWED_KEYS", Override.allowedKeys)
  | .httpPort => ("IC_HTTP_PORT", Override.httpPort)
  | .commitInterval => ("IC_COMMIT_INTERVAL_SECS", Override.commitInterval)

/-- The settings in the order of their variables. -/
def all : List Setting :=
  [nodeId, leader, privateKey, peers, allowedKeys, httpPort, commitInterval]

theorem nodup_all : all.Nodup := by
  decide

theorem map_entry_all : all.map entry = Override.all := rfl

end Setting

/-- Does an override do nothing but revise a setting? What is wrong with the value does not depend on
the configuration, and to revise the setting once more would change nothing. -/
def Revises (o : Override) (s : Setting) : Prop :=
  ∀ value, ∃ (revise : s.Value → s.Value) (fault : Option ConfigError),
    (∀ x, revise (revise x) = revise x) ∧ ∀ c, o value c = (s.set (revise (s.get c)) c, fault)

theorem revises_const {o : Override} {s : Setting} (read : String → s.Value)
    (all : ∀ value c, o value c = (s.set (read value) c, none)) : Revises o s := by
  intro value
  exact ⟨fun _ => read value, none, fun _ => rfl, all value⟩

theorem revises_read {o : Override} {s : Setting} {α : Type} (name : String)
    (read? : String → Option α) (x : α → s.Value)
    (all : ∀ value c, o value c =
      match read? value with
      | some a => (s.set (x a) c, none)
      | none => (c, some (.invalidVariable name value))) : Revises o s := by
  intro value
  cases read : read? value with
  | none =>
    refine ⟨id, some (.invalidVariable name value), fun _ => rfl, fun c => ?_⟩
    rw [all, read, id, Setting.set_get]
  | some a =>
    refine ⟨fun _ => x a, none, fun _ => rfl, fun c => ?_⟩
    rw [all, read]

/-- To allow entries for keys adds those up to the first that is none, whatever was allowed before. -/
theorem exists_allowAll (texts : List String) :
    ∃ (entries : List (String × String)) (fault : Option ConfigError), ∀ c : NodeConfig,
      allowAll texts c = (Setting.allowedKeys.set
        (entries.foldl (fun list entry => list.insert entry.1 entry.2) c.identity.allowlist) c,
          fault) := by
  induction texts with
  | nil => exact ⟨[], none, fun _ => rfl⟩
  | cons text rest ih =>
    obtain ⟨entries, fault, all⟩ := ih
    cases read : keyEntry? text with
    | none =>
      refine ⟨[], some (.invalidVariable "IC_ALLOWED_KEYS" text), fun c => ?_⟩
      simp only [allowAll, read]
      rfl
    | some entry =>
      refine ⟨entry :: entries, fault, fun c => ?_⟩
      simp only [allowAll, read, all]
      rfl

theorem revises_allowedKeys : Revises allowedKeys .allowedKeys := by
  intro value
  obtain ⟨entries, fault, all⟩ := exists_allowAll (pieces value)
  let revise (list : Allowlist) : Allowlist :=
    entries.foldl (fun list entry => list.insert entry.1 entry.2) list
  exact ⟨revise, fault, Allowlist.foldl_insert_again entries, all⟩

/-- Every variable revises its setting, and no variable looks at another setting. -/
theorem revises_entry (s : Setting) : Revises s.entry.2 s := by
  cases s with
  | nodeId => exact revises_const Text.trim fun _ _ => rfl
  | leader =>
    refine revises_read "IC_LEADER" truth? id ?_
    intro value c
    dsimp only [Setting.entry, leader]
    cases truth? value <;> rfl
  | privateKey => exact revises_const (fun value => some (Text.trim value)) fun _ _ => rfl
  | peers => exact revises_const pieces fun _ _ => rfl
  | allowedKeys => exact revises_allowedKeys
  | httpPort =>
    refine revises_read "IC_HTTP_PORT"
      (fun value => Text.unsigned? (UInt16.size - 1) (Text.trim value)) UInt16.ofNat ?_
    intro value c
    dsimp only [Setting.entry, httpPort]
    cases Text.unsigned? (UInt16.size - 1) (Text.trim value) <;> rfl
  | commitInterval =>
    refine revises_read "IC_COMMIT_INTERVAL_SECS"
      (fun value => Text.unsigned? (UInt64.size - 1) (Text.trim value))
      (fun secs => some (UInt64.ofNat secs)) ?_
    intro value c
    dsimp only [Setting.entry, commitInterval]
    cases Text.unsigned? (UInt64.size - 1) (Text.trim value) <;> rfl

namespace Revises

variable {o : Override} {s : Setting}

/-- Where a setting has what a variable made of it, the variable changes nothing more. -/
theorem again (revises : Revises o s) {value : String} {c c' : NodeConfig}
    (same : s.get c' = s.get (o value c).1) : o value c' = (c', (o value c).2) := by
  obtain ⟨revise, fault, settled, all⟩ := revises value
  rw [all c, Setting.get_set] at same
  rw [all c, all c', same, settled, ← same, Setting.set_get]

/-- All other settings stay as they are. -/
theorem get_of_ne (revises : Revises o s) {other : Setting} (ne : other ≠ s) (value : String)
    (c : NodeConfig) : other.get (o value c).1 = other.get c := by
  obtain ⟨revise, fault, _, all⟩ := revises value
  rw [all c]
  exact Setting.get_set_of_ne ne _ c

end Revises

/-! ## One variable after the other -/

section

variable (env : Environment)

theorem applyAll_of_none {s : Setting} (unset : env s.entry.1 = none)
    (rest : List (String × Override)) (c : NodeConfig) :
    applyAll env (s.entry :: rest) c = applyAll env rest c := by
  rw [applyAll, unset]

/-- A variable that is set is followed by the others only if its value makes sense. -/
theorem applyAll_of_some {s : Setting} {value : String} (isSet : env s.entry.1 = some value)
    (rest : List (String × Override)) (c : NodeConfig) :
    applyAll env (s.entry :: rest) c =
      if (s.entry.2 value c).2 = none then applyAll env rest (s.entry.2 value c).1
      else s.entry.2 value c := by
  rw [applyAll, isSet]
  cases made : s.entry.2 value c with
  | mk next fault =>
    cases fault with
    | none => simp only [made, if_true]
    | some fault => simp only [made, reduceCtorEq, if_false]

variable {s : Setting} {settings : List Setting}

/-- A setting whose variable is not looked at stays as it is. -/
theorem get_applyAll (other : s ∉ settings) (c : NodeConfig) :
    s.get (applyAll env (settings.map Setting.entry) c).1 = s.get c := by
  induction settings generalizing c with
  | nil => rfl
  | cons first rest ih =>
    rw [List.mem_cons, not_or] at other
    obtain ⟨ne, others⟩ := other
    rw [List.map_cons]
    cases value? : env first.entry.1 with
    | none => rw [applyAll_of_none env value?, ih others]
    | some value =>
      have kept := (revises_entry first).get_of_ne ne value c
      rw [applyAll_of_some env value?]
      split
      · rw [ih others, kept]
      · exact kept

/-- Where all variables have been looked at, looking at them again leads to the same end. -/
theorem applyAll_again (distinct : settings.Nodup) (c : NodeConfig) :
    applyAll env (settings.map Setting.entry) (applyAll env (settings.map Setting.entry) c).1 =
      applyAll env (settings.map Setting.entry) c := by
  induction settings generalizing c with
  | nil => rfl
  | cons first rest ih =>
    obtain ⟨notLater, distinct⟩ := List.nodup_cons.mp distinct
    rw [List.map_cons]
    cases value? : env first.entry.1 with
    | none => rw [applyAll_of_none env value?, applyAll_of_none env value?, ih distinct]
    | some value =>
      rw [applyAll_of_some env value?, applyAll_of_some env value?]
      split
      · next sound =>
        -- The variables that follow leave what this one has set.
        have kept := get_applyAll env notLater (first.entry.2 value c).1
        rw [(revises_entry first).again kept, if_pos sound, ih distinct]
      · next faulty => rw [(revises_entry first).again rfl, if_neg faulty]

end

/-! ## Lists with commas -/

/-- Are these the pieces of a list of texts? White space may stand around every text, and blank
pieces may stand anywhere. -/
inductive Spread : List String → List String → Prop
  | nil : Spread [] []
  | blank {piece : String} {texts pieces : List String} (isBlank : Text.isBlank piece = true)
      (rest : Spread texts pieces) : Spread texts (piece :: pieces)
  | text {before after : String} {texts pieces : List String} (text : String)
      (blankBefore : Text.isBlank before = true) (blankAfter : Text.isBlank after = true)
      (rest : Spread texts pieces) :
      Spread (text :: texts) ((before ++ text ++ after) :: pieces)

/-- Does a value list these texts, with commas between its pieces? -/
def Lists (value : String) (texts : List String) : Prop :=
  ∃ pieces, Spread texts pieces ∧ value = ",".intercalate pieces

/-- Can a text be listed? It must not be empty, or end before it is over. -/
structure Listable (text : String) : Prop where
  nonempty : text ≠ ""
  trimmed : Text.Trimmed text.toList
  noComma : ',' ∉ text.toList

instance (text : String) : Decidable (Listable text) :=
  decidable_of_iff (text ≠ "" ∧ Text.Trimmed text.toList ∧ ',' ∉ text.toList)
    ⟨fun h => ⟨h.1, h.2.1, h.2.2⟩, fun h => ⟨h.nonempty, h.trimmed, h.noComma⟩⟩

namespace Spread

variable {texts pieces : List String}

/-- Every row of texts is listed by itself. -/
theorem self (texts : List String) : Spread texts texts := by
  induction texts with
  | nil => exact .nil
  | cons text rest ih =>
    have padded : Spread (text :: rest) (("" ++ text ++ "") :: rest) := .text text rfl rfl ih
    rwa [String.empty_append, String.append_empty] at padded

theorem noComma_of_isBlank {s : String} (blank : Text.isBlank s = true) : ',' ∉ s.toList := by
  intro member
  have space : Text.isSpace ',' = true := List.all_eq_true.mp blank ',' member
  cases space

theorem noComma (spread : Spread texts pieces) (listable : ∀ text ∈ texts, Listable text) :
    ∀ piece ∈ pieces, ',' ∉ piece.toList := by
  induction spread with
  | nil => exact nofun
  | blank isBlank _ ih =>
    intro piece member
    rcases List.mem_cons.mp member with rfl | later
    · exact noComma_of_isBlank isBlank
    · exact ih listable piece later
  | text text blankBefore blankAfter _ ih =>
    intro piece member
    rcases List.mem_cons.mp member with rfl | later
    · have inner := (listable text List.mem_cons_self).noComma
      simp [noComma_of_isBlank blankBefore, inner, noComma_of_isBlank blankAfter]
    · exact ih (fun other isText => listable other (List.mem_cons_of_mem text isText)) piece later

/-- Trimming the pieces and leaving out blank ones gives the texts. -/
theorem filter_trim (spread : Spread texts pieces) (listable : ∀ text ∈ texts, Listable text) :
    (pieces.map Text.trim).filter (!·.isEmpty) = texts := by
  induction spread with
  | nil => rfl
  | blank isBlank _ ih =>
    rw [List.map_cons, Text.trim_of_isBlank isBlank]
    exact ih listable
  | text text blankBefore blankAfter _ ih =>
    have first := listable text List.mem_cons_self
    have shown : (!text.isEmpty) = true := by
      rw [Bool.not_eq_true', Bool.eq_false_iff, ne_eq, String.isEmpty_iff]
      exact first.nonempty
    rw [List.map_cons, Text.trim_padded blankBefore blankAfter, Text.trim_of_trimmed first.trimmed,
      List.filter_cons, if_pos shown,
      ih fun other isText => listable other (List.mem_cons_of_mem text isText)]

end Spread

/-- The texts that a value lists are the pieces that count. -/
theorem pieces_of_lists {value : String} {texts : List String} (lists : Lists value texts)
    (listable : ∀ text ∈ texts, Listable text) : pieces value = texts := by
  obtain ⟨parts, spread, rfl⟩ := lists
  have cut : (",".intercalate parts).toList.splitOnP (· == ',') =
      if parts = [] then [[]] else parts.map String.toList := by
    rw [String.toList_intercalate]
    split
    · next none =>
      rw [none]
      rfl
    · next some =>
      apply List.splitOn_intercalate ','
      · intro cs member
        obtain ⟨piece, isPiece, rfl⟩ := List.mem_map.mp member
        exact spread.noComma listable piece isPiece
      · exact mt List.map_eq_nil_iff.mp some
  rw [pieces, cut]
  split
  · next none =>
    subst none
    cases spread
    rfl
  · rw [List.map_map]
    have same : ((fun cs => Text.trim (String.ofList cs)) ∘ String.toList) = Text.trim := by
      funext piece
      simp
    rw [same, spread.filter_trim listable]

/-! ## Keys -/

/-- The written form of a key that is allowed. -/
def keyEntryText (entry : String × String) : String :=
  entry.1 ++ "=" ++ entry.2

/-- Can a node be allowed under a key by a variable? The key may hold equals signs. -/
structure KeyListable (entry : String × String) : Prop where
  trimmedNode : Text.Trimmed entry.1.toList
  noCommaInNode : ',' ∉ entry.1.toList
  noEquals : '=' ∉ entry.1.toList
  trimmedKey : Text.Trimmed entry.2.toList
  noCommaInKey : ',' ∉ entry.2.toList

instance (entry : String × String) : Decidable (KeyListable entry) :=
  decidable_of_iff
    ((Text.Trimmed entry.1.toList ∧ ',' ∉ entry.1.toList ∧ '=' ∉ entry.1.toList) ∧
      Text.Trimmed entry.2.toList ∧ ',' ∉ entry.2.toList)
    ⟨fun h => ⟨h.1.1, h.1.2.1, h.1.2.2, h.2.1, h.2.2⟩,
      fun h => ⟨⟨h.trimmedNode, h.noCommaInNode, h.noEquals⟩, h.trimmedKey, h.noCommaInKey⟩⟩

theorem toList_keyEntryText (entry : String × String) :
    (keyEntryText entry).toList = entry.1.toList ++ '=' :: entry.2.toList := by
  simp [keyEntryText]

namespace KeyListable

variable {entry : String × String}

/-- The first equals sign divides the entry, whatever the key holds. -/
theorem read_text (listable : KeyListable entry) :
    keyEntry? (keyEntryText entry) = some entry := by
  have before : ∀ c ∈ entry.1.toList, (c != '=') = true := fun c member =>
    bne_iff_ne.mpr fun same => listable.noEquals (same ▸ member)
  have node : (entry.1.toList ++ '=' :: entry.2.toList).takeWhile (· != '=') = entry.1.toList := by
    rw [List.takeWhile_append_of_pos before, List.takeWhile_cons_of_neg (by decide),
      List.append_nil]
  have key : (entry.1.toList ++ '=' :: entry.2.toList).dropWhile (· != '=') =
      '=' :: entry.2.toList := by
    rw [List.dropWhile_append_of_pos before]
    rfl
  simp only [toList_keyEntryText, keyEntry?, node, key, String.ofList_toList,
    Text.trim_of_trimmed listable.trimmedNode, Text.trim_of_trimmed listable.trimmedKey]

theorem text (listable : KeyListable entry) : Listable (keyEntryText entry) where
  nonempty := by
    intro empty
    have nothing := congrArg String.toList empty
    rw [toList_keyEntryText] at nothing
    cases (List.append_eq_nil_iff.mp nothing).2
  trimmed := by
    rw [toList_keyEntryText]
    exact listable.trimmedNode.append_cons rfl listable.trimmedKey
  noComma := by
    rw [toList_keyEntryText]
    simp [listable.noCommaInNode, listable.noCommaInKey]

end KeyListable

/-- Entries that can be read are all added. -/
theorem allowAll_map_text {entries : List (String × String)}
    (listable : ∀ entry ∈ entries, KeyListable entry) (c : NodeConfig) :
    allowAll (entries.map keyEntryText) c = ({ c with identity := { c.identity with
      allowlist := entries.foldl (fun list entry => list.insert entry.1 entry.2)
        c.identity.allowlist } }, none) := by
  induction entries generalizing c with
  | nil => rfl
  | cons entry rest ih =>
    have read := (listable entry List.mem_cons_self).read_text
    rw [List.map_cons, allowAll, read]
    exact ih (fun other isEntry => listable other (List.mem_cons_of_mem entry isEntry)) _

end Override

/-! ## Identities in the environment -/

/-- Can an identity be written into the environment? -/
structure NodeIdentity.Writable (i : NodeIdentity) : Prop where
  nodeId : Text.Trimmed i.nodeId.toList
  privateKey : ∀ key ∈ i.privateKeyText, Text.Trimmed key.toList
  peers : ∀ peer ∈ i.peers, Override.Listable peer
  allowlist : ∀ entry ∈ i.allowlist.entries, Override.KeyListable entry

/-- Do the variables say who a node is, and nothing else? The keys may be given in any order. -/
structure Environment.Describes (env : Environment) (i : NodeIdentity) : Prop where
  nodeId : env "IC_NODE_ID" = some i.nodeId
  leader : env "IC_LEADER" = some (if i.isLeader then "true" else "false")
  privateKey : env "IC_PRIVATE_KEY" = i.privateKeyText
  peers : ∃ value, env "IC_PEERS" = some value ∧ Override.Lists value i.peers
  allowedKeys : ∃ (value : String) (entries : List (String × String)),
    env "IC_ALLOWED_KEYS" = some value ∧ entries.Perm i.allowlist.entries ∧
      Override.Lists value (entries.map Override.keyEntryText)
  httpPort : env "IC_HTTP_PORT" = none
  commitInterval : env "IC_COMMIT_INTERVAL_SECS" = none

/-- The variables that say who a node is, with nothing but commas between the entries of lists. -/
def NodeIdentity.toEnvironment (i : NodeIdentity) : Environment
  | "IC_NODE_ID" => some i.nodeId
  | "IC_LEADER" => some (if i.isLeader then "true" else "false")
  | "IC_PRIVATE_KEY" => i.privateKeyText
  | "IC_PEERS" => some (",".intercalate i.peers)
  | "IC_ALLOWED_KEYS" =>
    some (",".intercalate (i.allowlist.entries.map Override.keyEntryText))
  | _ => none

theorem NodeIdentity.describes_toEnvironment (i : NodeIdentity) : i.toEnvironment.Describes i where
  nodeId := rfl
  leader := rfl
  privateKey := rfl
  peers := ⟨_, rfl, _, .self _, rfl⟩
  allowedKeys := ⟨_, _, rfl, .refl _, _, .self _, rfl⟩
  httpPort := rfl
  commitInterval := rfl

namespace NodeConfig

open Override

/-- An identity that is written into the environment comes out of it. -/
theorem override_of_describes {i : NodeIdentity} {env : Environment} {c : NodeConfig}
    (writable : i.Writable) (describes : env.Describes i)
    (noKeys : c.identity.allowlist = .empty) (noPrivateKey : c.identity.privateKeyText = none) :
    c.override env = ({ c with identity := i }, none) := by
  obtain ⟨peersValue, peersSet, peersListed⟩ := describes.peers
  obtain ⟨keysValue, entries, keysSet, shuffled, keysListed⟩ := describes.allowedKeys
  have readable : ∀ entry ∈ entries, KeyListable entry := fun entry member =>
    writable.allowlist entry (shuffled.mem_iff.mp member)
  have peers : pieces peersValue = i.peers := pieces_of_lists peersListed writable.peers
  have keys : pieces keysValue = entries.map keyEntryText := by
    apply pieces_of_lists keysListed
    intro text member
    obtain ⟨entry, isEntry, rfl⟩ := List.mem_map.mp member
    exact (readable entry isEntry).text
  have allowlist := Allowlist.foldl_insert_empty shuffled
  have truth : truth? (if i.isLeader then "true" else "false") = some i.isLeader := by
    cases i.isLeader <;> decide
  have name : Text.trim i.nodeId = i.nodeId := Text.trim_of_trimmed writable.nodeId
  simp only [NodeConfig.override, Override.all, applyAll, describes.nodeId, describes.leader,
    peersSet, keysSet, describes.httpPort, describes.commitInterval, Override.nodeId,
    Override.leader, Override.peers, Override.allowedKeys, name, truth, peers, keys,
    allowAll_map_text readable, NodeIdentity.withPeers]
  rw [describes.privateKey]
  cases key? : i.privateKeyText with
  | none =>
    simp only [noKeys, noPrivateKey, allowlist]
    rw [← key?]
  | some key =>
    have secret : Text.trim key = key := Text.trim_of_trimmed (writable.privateKey key key?)
    simp only [Override.privateKey, secret, noKeys, allowlist]
    rw [← key?]

/-- To apply an environment twice is to apply it once. -/
theorem override_again (env : Environment) (c : NodeConfig) :
    (c.override env).1.override env = c.override env := by
  simp only [NodeConfig.override, ← Setting.map_entry_all]
  exact applyAll_again env Setting.nodup_all c

/-- Every identity can be put into variables. However that is done, the variables make every
configuration that has no keys yet one of a node with this identity, and change nothing else of it.
And no environment, whatever it says, has more to say when it is applied once more. -/
theorem override_reproduces :
    (∀ i : NodeIdentity, i.toEnvironment.Describes i) ∧
    (∀ (i : NodeIdentity) (env : Environment) (c : NodeConfig), i.Writable → env.Describes i →
      c.identity.allowlist = .empty → c.identity.privateKeyText = none →
        c.override env = ({ c with identity := i }, none)) ∧
    ∀ (env : Environment) (c : NodeConfig), (c.override env).1.override env = c.override env := by
  refine ⟨NodeIdentity.describes_toEnvironment, ?_, override_again⟩
  intro i env c writable describes noKeys noPrivateKey
  exact override_of_describes writable describes noKeys noPrivateKey

/-- A leader with keys that end in padding. -/
def paddedLeader : NodeIdentity where
  nodeId := "node-1"
  isLeader := true
  privateKeyText := some "c2VlZA=="
  peers := ["http://a:8082", "http://b:8083"]
  allowlist := (Allowlist.empty.insert "node-1" "UFVCMQ==").insert "node-9" "UFVCOTk="

/-- Variables for `paddedLeader`, with blanks and stray commas, and with the keys in another
order. -/
def spacedEnvironment : Environment
  | "IC_NODE_ID" => some "node-1"
  | "IC_LEADER" => some "true"
  | "IC_PRIVATE_KEY" => some "c2VlZA=="
  | "IC_PEERS" => some "http://a:8082, ,\thttp://b:8083,"
  | "IC_ALLOWED_KEYS" => some ", node-9=UFVCOTk= ,,node-1=UFVCMQ=="
  | _ => none

def otherFollower : NodeConfig :=
  { standard with
    identity := (NodeIdentity.follower "node-2").withPeers ["http://c:8084"]
    network := ⟨"127.0.0.1", 8081⟩ }

theorem writable_paddedLeader : paddedLeader.Writable where
  nodeId := by decide +kernel
  privateKey := by
    intro key isKey
    obtain rfl := Option.some.inj isKey
    decide +kernel
  peers := by decide +kernel
  allowlist := by decide +kernel

theorem describes_spacedEnvironment : spacedEnvironment.Describes paddedLeader where
  nodeId := rfl
  leader := rfl
  privateKey := rfl
  peers :=
    ⟨_, rfl, ["" ++ "http://a:8082" ++ "", " ", "\t" ++ "http://b:8083" ++ "", ""],
      .text _ rfl rfl (.blank rfl (.text _ rfl rfl (.blank rfl .nil))), by decide +kernel⟩
  allowedKeys :=
    ⟨_, [("node-9", "UFVCOTk="), ("node-1", "UFVCMQ==")], rfl, by decide +kernel,
      ["", " " ++ "node-9=UFVCOTk=" ++ " ", "", "" ++ "node-1=UFVCMQ==" ++ ""],
      .blank rfl (.text _ rfl rfl (.blank rfl (.text _ rfl rfl .nil))), by decide +kernel⟩
  httpPort := rfl
  commitInterval := rfl

theorem override_reproduces_of_padded :
    otherFollower.override spacedEnvironment =
      ({ otherFollower with identity := paddedLeader }, none) :=
  override_reproduces.2.1 paddedLeader spacedEnvironment otherFollower writable_paddedLeader
    describes_spacedEnvironment rfl rfl

end NodeConfig

end EvidenceLedger
