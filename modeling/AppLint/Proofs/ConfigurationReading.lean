import AppLint.Configuration
import AppLint.Proofs.JsonPath

/-! How configurations are read: each rule from its own entry, each field of an entry on its own, and
the same with commented-out parts as without them. -/
namespace AppLint

open Json (Value)

namespace RuleConfig

def uncommented (r : RuleConfig) : RuleConfig :=
  { r with settings := Value.uncommentedFields r.settings }

inductive Field where
  | enabled
  | severity
  | settings
deriving DecidableEq, Repr

namespace Field

def name : Field → String
  | enabled => "enabled"
  | severity => "severity"
  | settings => "settings"

def second? : Field → Option String
  | enabled => none
  | severity => some "severity_override"
  | settings => some "custom_settings"

def names (f : Field) : List String := f.name :: f.second?.toList

def value? (f : Field) (entry : Keyed Value) : Option Value :=
  (Keyed.get? f.name entry).or (f.second?.bind fun other => Keyed.get? other entry)

/-- A value under this name is the one that counts for the field. -/
def Counts (f : Field) (name : String) (entry : Keyed Value) : Prop :=
  name = f.name ∨ f.second? = some name ∧ Keyed.get? f.name entry = none

/-- The value has the form that the field needs, and `r` has what it says. -/
inductive Says : Field → Value → RuleConfig → Prop
  | enabled {b : Bool} {r : RuleConfig} (h : r.enabled = b) : Says .enabled (.bool b) r
  | severity {s : String} {x : Severity} {r : RuleConfig} (hs : Severity.parse? s = some x)
      (h : r.severity = some x) : Says .severity (.string s) r
  | settings {settings : Settings} {r : RuleConfig} (h : r.settings = settings) :
      Says .settings (.object settings) r

def Malformed (f : Field) (v : Value) : Prop := ∀ r, ¬f.Says v r

def Same : Field → RuleConfig → RuleConfig → Prop
  | enabled, r, r' => r.enabled = r'.enabled
  | severity, r, r' => r.severity = r'.severity
  | settings, r, r' => r.settings = r'.settings

/-- `r` has in the field what the value says, and the default if there is none that can be read. -/
inductive Reads (f : Field) : Option Value → RuleConfig → Prop
  | said {v : Value} {r : RuleConfig} (h : f.Says v r) : Reads f (some v) r
  | malformed {v : Value} {r : RuleConfig} (hv : f.Malformed v) (h : f.Same r {}) : Reads f (some v) r
  | absent {r : RuleConfig} (h : f.Same r {}) : Reads f none r

theorem Same.symm {f : Field} {r r' : RuleConfig} (h : f.Same r r') : f.Same r' r := by
  cases f <;> exact Eq.symm h

theorem Same.trans {f : Field} {r r' r'' : RuleConfig} (h : f.Same r r') (h' : f.Same r' r'') :
    f.Same r r'' := by
  cases f <;> exact Eq.trans h h'

theorem Says.same {f : Field} {v : Value} {r r' : RuleConfig} (h : f.Says v r) (h' : f.Says v r') :
    f.Same r r' := by
  cases h with
  | enabled h =>
    cases h' with
    | enabled h' => exact h.trans h'.symm
  | severity hs h =>
    cases h' with
    | severity hs' h' => exact h.trans (hs.symm.trans (hs'.trans h'.symm))
  | settings h =>
    cases h' with
    | settings h' => exact h.trans h'.symm

theorem Reads.same {f : Field} {v : Option Value} {r r' : RuleConfig} (h : f.Reads v r)
    (h' : f.Reads v r') : f.Same r r' := by
  cases h with
  | said h =>
    cases h' with
    | said h' => exact h.same h'
    | malformed hv h' => exact absurd h (hv r)
  | malformed hv h =>
    cases h' with
    | said h' => exact absurd h' (hv r')
    | malformed hv' h' => exact h.trans h'.symm
  | absent h =>
    cases h' with
    | absent h' => exact h.trans h'.symm

theorem Reads.same_default {f : Field} {v : Value} {r : RuleConfig} (h : f.Reads (some v) r)
    (hv : f.Malformed v) : f.Same r {} := by
  cases h with
  | said h => exact absurd h (hv r)
  | malformed _ h => exact h

theorem eq_of_same {r r' : RuleConfig} (h : ∀ f : Field, f.Same r r') : r = r' := by
  obtain ⟨e,x,s⟩ := r
  obtain ⟨e',x',s'⟩ := r'
  obtain rfl : e = e' := h .enabled
  obtain rfl : x = x' := h .severity
  obtain rfl : s = s' := h .settings
  rfl

theorem value?_of_second? {f : Field} {other : String} (h : f.second? = some other)
    (entry : Keyed Value) : f.value? entry = either f.name other entry := by
  rw [value?,h,Option.bind_some,either]
  cases Keyed.get? f.name entry <;> rfl

theorem ne_name_of_second? (f : Field) : ∀ other ∈ f.second?, other ≠ f.name := by
  cases f <;> decide

theorem eq_of_mem_names (f g : Field) : ∀ name ∈ f.names, name ∈ g.names → f = g := by
  cases f <;> cases g <;> decide

theorem Counts.mem_names {f : Field} {name : String} {entry : Keyed Value}
    (h : f.Counts name entry) : name ∈ f.names := by
  rcases h with rfl | ⟨hsecond,-⟩
  · exact List.mem_cons_self
  · exact List.mem_cons_of_mem _ (Option.mem_toList.mpr hsecond)

theorem value?_of_counts {f : Field} {name : String} {entry : Keyed Value} (h : f.Counts name entry)
    (v : Value) : f.value? (Keyed.insert name v entry) = some v := by
  rcases h with rfl | ⟨hsecond,habsent⟩
  · simp [value?]
  · rw [value?,Keyed.get?_insert_of_ne (f.ne_name_of_second? name hsecond).symm,habsent,hsecond]
    simp

theorem value?_of_not_mem {g : Field} {name : String} (h : name ∉ g.names) (v : Value)
    (entry : Keyed Value) : g.value? (Keyed.insert name v entry) = g.value? entry := by
  obtain ⟨hname,hsecond⟩ := not_or.mp (fun h' => h (List.mem_cons.mpr h'))
  have hother : ∀ other ∈ g.second?, Keyed.get? other (Keyed.insert name v entry) =
      Keyed.get? other entry := by
    intro other hother
    refine Keyed.get?_insert_of_ne (fun heq => hsecond ?_) v entry
    exact heq ▸ Option.mem_toList.mpr hother
  rw [value?,Keyed.get?_insert_of_ne (Ne.symm hname),value?,Option.bind_congr hother]

theorem isCommented_of_mem_names (f : Field) : ∀ name ∈ f.names, Json.isCommented name = false := by
  cases f <;> decide

theorem value?_uncommentedFields (f : Field) (entry : Keyed Value) :
    f.value? (Value.uncommentedFields entry) = (f.value? entry).map Value.uncommented := by
  have hget : ∀ name ∈ f.names, Keyed.get? name (Value.uncommentedFields entry) =
      (Keyed.get? name entry).map Value.uncommented := by
    intro name hname
    rw [Value.get?_uncommentedFields,f.isCommented_of_mem_names name hname]
    rfl
  have hsecond : ∀ other ∈ f.second?, Keyed.get? other (Value.uncommentedFields entry) =
      (Keyed.get? other entry).map Value.uncommented := fun other hother =>
    hget other (List.mem_cons_of_mem _ (Option.mem_toList.mpr hother))
  rw [value?,hget f.name List.mem_cons_self,Option.bind_congr hsecond,value?,Option.map_or,
    Option.map_bind]
  rfl

theorem Malformed.uncommented {f : Field} {v : Value} (h : f.Malformed v) :
    f.Malformed v.uncommented := by
  intro r hsays
  cases v with
  | array items => cases hsays
  | object fields =>
    cases hsays with
    | settings => exact h { settings := fields } (.settings rfl)
  | _ => exact h r hsays

theorem Reads.uncommented {f : Field} {v : Option Value} {r : RuleConfig} (h : f.Reads v r) :
    f.Reads (v.map Value.uncommented) r.uncommented := by
  have hdefault : f.Same r {} → f.Same r.uncommented {} := by
    intro hsame
    cases f with
    | enabled | severity => exact hsame
    | settings => exact congrArg Value.uncommentedFields hsame
  cases h with
  | said h =>
    cases h with
    | enabled h => exact .said (.enabled h)
    | severity hs h => exact .said (.severity hs h)
    | settings h => exact .said (.settings (congrArg Value.uncommentedFields h))
  | malformed hv h => exact .malformed hv.uncommented (hdefault h)
  | absent h => exact .absent (hdefault h)

end Field

theorem reads_enabled {rule : String} {entry : Keyed Value} {r : RuleConfig}
    (h : r.enabled = (readEnabled rule entry).value) :
    Field.enabled.Reads (Field.enabled.value? entry) r := by
  have hvalue : Field.enabled.value? entry = Keyed.get? "enabled" entry := Option.or_none
  rw [hvalue]
  unfold readEnabled at h
  split at h
  · rename_i b hget
    rw [hget]
    exact .said (.enabled h)
  · rename_i v hv hget
    rw [hget]
    refine .malformed (fun r' hsays => ?_) h
    cases hsays
    exact hv _ rfl
  · rename_i hget
    rw [hget]
    exact .absent h

theorem reads_severity {rule : String} {entry : Keyed Value} {r : RuleConfig}
    (h : r.severity = (readSeverity rule entry).value) :
    Field.severity.Reads (Field.severity.value? entry) r := by
  have hvalue : Field.severity.value? entry = either "severity" "severity_override" entry :=
    Field.value?_of_second? rfl entry
  rw [hvalue]
  unfold readSeverity at h
  split at h
  · rename_i s hget
    rw [hget]
    split at h
    · rename_i x hs
      exact .said (.severity hs h)
    · rename_i hs
      refine .malformed (fun r' hsays => ?_) h
      cases hsays with
      | severity hs' => simp [hs] at hs'
  · rename_i hget
    rw [hget]
    exact .malformed (by rintro r' ⟨⟩) h
  · rename_i v hstring hnull hget
    rw [hget]
    refine .malformed (fun r' hsays => ?_) h
    cases hsays
    exact hstring _ rfl
  · rename_i hget
    rw [hget]
    exact .absent h

theorem reads_settings {rule : String} {entry : Keyed Value} {r : RuleConfig}
    (h : r.settings = (readSettings rule entry).value) :
    Field.settings.Reads (Field.settings.value? entry) r := by
  have hvalue : Field.settings.value? entry = either "settings" "custom_settings" entry :=
    Field.value?_of_second? rfl entry
  rw [hvalue]
  unfold readSettings at h
  split at h
  · rename_i settings hget
    rw [hget]
    exact .said (.settings h)
  · rename_i hget
    rw [hget]
    exact .malformed (by rintro r' ⟨⟩) h
  · rename_i v hobject hnull hget
    rw [hget]
    refine .malformed (fun r' hsays => ?_) h
    cases hsays
    exact hobject _ rfl
  · rename_i hget
    rw [hget]
    exact .absent h

theorem reads_ofValue (rule : String) (entry : Keyed Value) (f : Field) :
    f.Reads (f.value? entry) (ofValue rule (.object entry)).value := by
  cases f with
  | enabled => exact reads_enabled rfl
  | severity => exact reads_severity rfl
  | settings => exact reads_settings rfl

/-- What a value says about a rule: by its fields, or, for a bare truth value, whether the rule is
enabled. -/
inductive Describes : Value → RuleConfig → Prop
  | switch (b : Bool) : Describes (.bool b) { enabled := b }
  | entry {entry : Keyed Value} {r : RuleConfig} (h : ∀ f : Field, f.Reads (f.value? entry) r) :
      Describes (.object entry) r
  | other {v : Value} (hbool : ∀ b, v ≠ .bool b) (hobject : ∀ entry, v ≠ .object entry) :
      Describes v {}

theorem describes_ofValue (rule : String) (v : Value) : Describes v (ofValue rule v).value := by
  cases v with
  | bool b => exact .switch b
  | object entry => exact .entry (reads_ofValue rule entry)
  | _ => exact .other (by simp) (by simp)

theorem ofValue_uncommented (rule : String) (v : Value) :
    (ofValue rule v.uncommented).value = (ofValue rule v).value.uncommented := by
  cases v with
  | object entry =>
    refine Field.eq_of_same fun f => (reads_ofValue rule _ f).same ?_
    rw [f.value?_uncommentedFields]
    exact (reads_ofValue rule entry f).uncommented
  | _ => rfl

end RuleConfig

namespace Configuration

def ofObject (fields : Keyed Value) : Configuration := ⟨(ofFields fields).value⟩

theorem rule?_ofObject (n : String) (fields : Keyed Value) :
    (ofObject fields).rule? n =
      (Keyed.get? n fields).map fun v => (RuleConfig.ofValue n v).value := by
  simp only [ofObject,rule?]
  induction fields with
  | nil => rfl
  | cons e rest ih =>
    obtain ⟨k,v⟩ := e
    by_cases hk : k = n
    · subst hk
      simp [ofFields,Keyed.get?]
    · simp [ofFields,Keyed.get?,hk,ih]

theorem rule?_ofObject_uncommented {n : String} (hn : Json.isCommented n = false)
    (fields : Keyed Value) :
    (ofObject (Value.uncommentedFields fields)).rule? n =
      ((ofObject fields).rule? n).map RuleConfig.uncommented := by
  simp only [rule?_ofObject,Value.get?_uncommentedFields,hn,Bool.false_eq_true,if_false,
    Option.map_map,Function.comp_def,RuleConfig.ofValue_uncommented]

theorem reads_of_rule? {n : String} {fields entry : Keyed Value} {r : RuleConfig}
    (hentry : Keyed.get? n fields = some (.object entry)) (hr : (ofObject fields).rule? n = some r)
    (f : RuleConfig.Field) : f.Reads (f.value? entry) r := by
  rw [rule?_ofObject,hentry] at hr
  obtain rfl := Option.some.inj hr
  exact RuleConfig.reads_ofValue n entry f

/-- An object is always read, and each rule in it from its own entry alone. Of an entry each field is
read alone too, under its second name only where the first is absent; what cannot be read leaves its
field at the default and the others as they are. A text is read without its commented-out parts, which
changes nothing for the rules that are left but that their settings lose such parts as well. -/
theorem ofValue_reads_fields_apart (fields fields' : Keyed Value) :
    let c := ofObject fields
    let c' := ofObject fields'
    let left := ofObject (Value.uncommentedFields fields)
    (ofValue (.object fields)).value = .ok c ∧
    (ofValue (.object fields')).value = .ok c' ∧
    (∀ n, Keyed.get? n fields = none → c.rule? n = none) ∧
    (∀ n v, Keyed.get? n fields = some v → ∃ r, c.rule? n = some r ∧ RuleConfig.Describes v r) ∧
    (∀ n, Keyed.get? n fields' = Keyed.get? n fields → c'.rule? n = c.rule? n) ∧
    (∀ n entry entry' r r', Keyed.get? n fields = some (.object entry) →
      Keyed.get? n fields' = some (.object entry') → c.rule? n = some r → c'.rule? n = some r' →
      (∀ f : RuleConfig.Field, f.value? entry' = f.value? entry → f.Same r' r) ∧
      ∀ (f : RuleConfig.Field) name v, entry' = Keyed.insert name v entry → f.Counts name entry →
        f.Malformed v → f.Same r' {} ∧ ∀ g, g ≠ f → g.Same r' r) ∧
    (ofValue (Value.object fields).uncommented).value = .ok left ∧
    (∀ text, Yaml.parse text = .ok (.object fields) → (parse text).value = .ok left) ∧
    ∀ n, (∀ rest, n ≠ "_" ++ rest) →
      left.rule? n = (c.rule? n).map fun r =>
        { r with settings := Value.uncommentedFields r.settings } := by
  intro c c' left
  refine ⟨rfl,rfl,fun n hn => ?_,fun n v hv => ?_,fun n hn => ?_,?_,rfl,fun text htext => ?_,
    fun n hn => ?_⟩
  · rw [rule?_ofObject,hn,Option.map_none]
  · exact ⟨_,by rw [rule?_ofObject,hv,Option.map_some],RuleConfig.describes_ofValue n v⟩
  · rw [rule?_ofObject,rule?_ofObject,hn]
  · intro n entry entry' r r' hentry hentry' hr hr'
    have hreads := reads_of_rule? hentry hr
    have hreads' := reads_of_rule? hentry' hr'
    have hsame : ∀ f : RuleConfig.Field, f.value? entry' = f.value? entry → f.Same r' r :=
      fun f hf => (hreads' f).same (hf ▸ hreads f)
    refine ⟨hsame,?_⟩
    rintro f name v rfl hcounts hv
    refine ⟨?_,fun g hg => hsame g (RuleConfig.Field.value?_of_not_mem (fun hname => ?_) v entry)⟩
    · have hf := hreads' f
      rw [RuleConfig.Field.value?_of_counts hcounts] at hf
      exact hf.same_default hv
    · exact hg (f.eq_of_mem_names g name hcounts.mem_names hname).symm
  · delta parse
    rw [htext]
    rfl
  · apply rule?_ofObject_uncommented
    rw [← Bool.not_eq_true,Json.isCommented_iff]
    rintro ⟨rest,hrest⟩
    exact hn rest hrest

/-- A text in which one rule has a flag that is no truth value, a severity under its second name and a
setting that is commented out; then the same with a number for the severity. -/
theorem ofValue_reads_fields_apart_draft :
    let text := "a:\n  enabled: no\n  severity_override: error\n  settings:\n    _x: 1\n    y: 2\n"
    let settings := [("_x",Value.number (.integer 1)),("y",.number (.integer 2))]
    let entry := [("enabled",Value.string "no"),("settings",.object settings),
      ("severity_override",.string "error")]
    let fields := [("a",Value.object entry)]
    let fields' := [("a",Value.object (Keyed.insert "severity" (.number (.integer 3)) entry))]
    Yaml.parse text = .ok (.object fields) ∧ (∀ rest, "a" ≠ "_" ++ rest) ∧
      Keyed.get? "a" fields = some (.object entry) ∧
      RuleConfig.Field.severity.Malformed (.number (.integer 3)) ∧
      ∃ r r' left, (ofObject fields).rule? "a" = some r ∧ (ofObject fields').rule? "a" = some r' ∧
        (parse text).value = .ok left ∧ RuleConfig.Describes (.object entry) r ∧
        r.enabled = true ∧ r.severity = some .error ∧ r'.severity = none ∧
        r'.settings = r.settings ∧
        left.rule? "a" = some { r with settings := Value.uncommentedFields r.settings } := by
  intro text settings entry fields fields'
  have hparse : Yaml.parse text = .ok (.object fields) :=
    Except.toOption_eq_some.mp (by decide +kernel)
  have hname : ∀ rest, "a" ≠ "_" ++ rest := fun rest hrest =>
    absurd ((Json.isCommented_iff "a").mpr ⟨rest,hrest⟩) (by decide)
  have hmalformed : RuleConfig.Field.severity.Malformed (.number (.integer 3)) := by rintro r ⟨⟩
  have hvalues : ((ofObject fields).rule? "a").map (·.enabled) = some true ∧
      ((ofObject fields).rule? "a").map (·.severity) = some (some .error) := by decide +kernel
  obtain ⟨-,-,-,hentries,-,hfields,-,htext,hleft⟩ := ofValue_reads_fields_apart fields fields'
  obtain ⟨-,-,-,hentries',-⟩ := ofValue_reads_fields_apart fields' fields
  obtain ⟨r,hr,hdescribes⟩ := hentries "a" _ rfl
  obtain ⟨r',hr',-⟩ := hentries' "a" _ rfl
  obtain ⟨hdefault,hothers⟩ :=
    (hfields "a" entry _ r r' rfl rfl hr hr').2 .severity _ _ rfl (Or.inl rfl) hmalformed
  have hrule := (hleft "a" hname).trans (congrArg _ hr)
  rw [hr] at hvalues
  exact ⟨hparse,hname,rfl,hmalformed,r,r',_,hr,hr',htext text hparse,hdescribes,
    Option.some.inj hvalues.1,Option.some.inj hvalues.2,hdefault,hothers .settings (by decide),hrule⟩

end Configuration
end AppLint
