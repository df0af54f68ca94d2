import AppLint.Discovery
import AppLint.Proofs.RuleDefinitions

/-! The entries of rule directories: one for each valid rule of each manifest, in order. -/
namespace AppLint

theorem RuleEntry.ofDefinition_eq_ok {d : RuleDefinition} {entry : RuleEntry} :
    ofDefinition d = .ok entry ↔
      ∃ r, DeclaredRule.compile d = .ok r ∧ entry = ⟨d.id,d.isExample,.ok (.declared r)⟩ := by
  unfold ofDefinition
  cases DeclaredRule.compile d <;> simp [eq_comm]

namespace RuleDefinition

def discovered? (d : RuleDefinition) : Option RuleEntry := (RuleEntry.ofDefinition d).toOption

end RuleDefinition

namespace Manifest

theorem ofStored_eq_ok {path : String} {content : ByteArray} {m : Manifest} :
    ofStored path (.file content) = .ok m ↔
      ∃ text, String.fromUTF8? content = some text ∧ parse text = .ok m := by
  simp only [ofStored,ofText,Except.bind_eq_ok,Except.mapError_eq_ok]
  have htext : ∀ text, (Stored.file content).text = .ok text ↔
      String.fromUTF8? content = some text := by
    intro text
    cases h : String.fromUTF8? content <;> simp [Stored.text,h]
  simp only [htext]

/-- The rules that the content of a file defines; none if it is no text, or no manifest. -/
def rulesIn (content : ByteArray) : List RuleDefinition :=
  match (String.fromUTF8? content).map parse with
  | some (.ok m) => m.rules
  | _ => []

theorem rulesIn_of_ok {path : String} {content : ByteArray} {m : Manifest}
    (h : ofStored path (.file content) = .ok m) : rulesIn content = m.rules := by
  obtain ⟨text,htext,hparse⟩ := ofStored_eq_ok.mp h
  simp only [rulesIn,htext,Option.map_some,hparse]

theorem rulesIn_of_error {path : String} {content : ByteArray} {e : DiscoveryError}
    (h : ofStored path (.file content) = .error e) : rulesIn content = [] := by
  cases htext : String.fromUTF8? content with
  | none => simp only [rulesIn,htext,Option.map_none]
  | some text =>
    cases hparse : parse text with
    | ok m => simp [ofStored_eq_ok.mpr ⟨text,htext,hparse⟩] at h
    | error e => simp only [rulesIn,htext,Option.map_some,hparse]

theorem exists_ofStored_of_mem {content : ByteArray} {d : RuleDefinition} (h : d ∈ rulesIn content)
    (path : String) : ∃ m, ofStored path (.file content) = .ok m ∧ d ∈ m.rules := by
  cases hm : ofStored path (.file content) with
  | ok m => exact ⟨m,rfl,rulesIn_of_ok hm ▸ h⟩
  | error e => simp [rulesIn_of_error hm] at h

end Manifest

namespace RuleEntry

theorem ofDefinitions_value (path : String) (ds : List RuleDefinition) :
    (ofDefinitions path ds).value = ds.filterMap RuleDefinition.discovered? := by
  induction ds with
  | nil => rfl
  | cons d rest ih =>
    rw [ofDefinitions,List.filterMap_cons,RuleDefinition.discovered?]
    cases h : ofDefinition d <;> simp [ih,Except.toOption]

theorem ofFile_value (path : String) (content : ByteArray) :
    (ofFile path (.file content)).value =
      (Manifest.rulesIn content).filterMap RuleDefinition.discovered? := by
  unfold ofFile
  cases h : Manifest.ofStored path (.file content) with
  | ok m => simp [ofDefinitions_value,Manifest.rulesIn_of_ok h]
  | error e => simp [Manifest.rulesIn_of_error h]

theorem ofFile_of_text_error {path : String} {file : Stored} {e : StorageError}
    (h : file.text = .error e) : (ofFile path file).value = [] := by
  unfold ofFile Manifest.ofStored
  rw [h]
  rfl

end RuleEntry

namespace Discovery

def manifest? : Stored.Met → Option (String × ByteArray)
  | .ok (path,.file content) => if isManifest path then some (path,content) else none
  | _ => none

def manifests (root : Stored) (directory : String) : List (String × ByteArray) :=
  ((root.walk? directory).getD []).filterMap manifest?

theorem manifest?_eq_some {met : Stored.Met} {path : String} {content : ByteArray} :
    manifest? met = some (path,content) ↔
      met = .ok (path,.file content) ∧ isManifest path = true := by
  unfold manifest?
  split
  · rename_i other found
    simp only [Option.ite_none_right_eq_some,Option.some.injEq,Prod.mk.injEq,Except.ok.injEq,
      Stored.file.injEq]
    constructor
    · rintro ⟨hmanifest,rfl,rfl⟩
      exact ⟨⟨rfl,rfl⟩,hmanifest⟩
    · rintro ⟨⟨rfl,rfl⟩,hmanifest⟩
      exact ⟨hmanifest,rfl,rfl⟩
  · rename_i hfile
    simp only [reduceCtorEq,false_iff,not_and]
    intro hmet
    exact absurd hmet (hfile path content)

theorem mem_manifests {root : Stored} {directory path : String} {content : ByteArray} :
    (path,content) ∈ manifests root directory ↔ ∃ met, root.walk? directory = some met ∧
      .ok (path,.file content) ∈ met ∧ isManifest path = true := by
  rw [manifests,List.mem_filterMap]
  cases root.walk? directory <;> simp [manifest?_eq_some]

theorem entriesOf_cons_ok (directory path : String) (file : Stored) (rest : List Stored.Met) :
    (entriesOf directory (.ok (path,file) :: rest)).value =
      (if isManifest path then (RuleEntry.ofFile path file).value else []) ++
        (entriesOf directory rest).value := by
  simp only [entriesOf]
  split <;> simp

theorem entriesOf_value (directory : String) (met : List Stored.Met) :
    (entriesOf directory met).value = (met.filterMap manifest?).flatMap fun f =>
      (Manifest.rulesIn f.2).filterMap RuleDefinition.discovered? := by
  induction met with
  | nil => rfl
  | cons first rest ih =>
    cases first with
    | error e => exact ih
    | ok item =>
      obtain ⟨path,file⟩ := item
      rw [entriesOf_cons_ok,ih]
      cases file with
      | file content => cases h : isManifest path <;> simp [manifest?,h,RuleEntry.ofFile_value]
      | directory es | link target =>
        rw [RuleEntry.ofFile_of_text_error rfl,ite_self]
        rfl

theorem ofDirectory_value (root : Stored) (directory : String) :
    (ofDirectory root directory).value = (manifests root directory).flatMap fun f =>
      (Manifest.rulesIn f.2).filterMap RuleDefinition.discovered? := by
  unfold ofDirectory manifests
  cases root.walk? directory with
  | some met => exact entriesOf_value directory met
  | none => rfl

end Discovery
end AppLint
