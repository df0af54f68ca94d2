import AppLint.Project.Reference
import AppLint.Proofs.ComponentOrder
import AppLint.Proofs.LoadStep

/-! Where components name fragments and data providers: the pages by id before the fragments by id, and
in each document the positions of its components in order. -/
namespace AppLint

/-- A name that a component uses, with the document and the position where the component stands. -/
structure Mention where
  document : Document
  position : List Nat
  name : String

namespace Component
variable {c : Component}

def Embeds (id : String) (c : Component) : Prop :=
  c.get? "type" = some (.string "fragment") ∧ c.get? "ref" = some (.string id)

def BoundTo (source : String) (c : Component) : Prop := c.get? "dataSource" = some (.string source)

theorem string?_eq_some {key s : String} : c.string? key = some s ↔ c.get? key = some (.string s) := by
  unfold string?
  cases c.get? key with
  | none => simp
  | some v => cases v <;> simp [Json.Value.string?]

theorem fragmentRef?_eq_some {id : String} : c.fragmentRef? = some id ↔ c.Embeds id := by
  unfold fragmentRef? kind? Embeds
  split_ifs with hkind
  · rw [string?_eq_some] at hkind ⊢
    simp [hkind]
  · rw [string?_eq_some] at hkind
    simp [hkind]

theorem dataSource?_eq_some {source : String} : c.dataSource? = some source ↔ c.BoundTo source :=
  string?_eq_some

end Component

/-- The order of places: pages by id, then fragments by id. -/
def Slot.Before : Slot → Slot → Prop
  | .page a, .page b => a < b
  | .page _, .fragment _ => True
  | .fragment a, .fragment b => a < b
  | _, _ => False

namespace Mention

def within (name? : Component → Option String) (d : Document) : List Mention :=
  (Component.positions d.tree).filterMap fun q =>
    ((Component.atPosition? d.tree q).bind name?).map fun s => ⟨d,q,s⟩

/-- One document comes before the other, or one position in the same document. -/
def Before (m n : Mention) : Prop :=
  m.document.slot.Before n.document.slot ∨
    m.document.slot = n.document.slot ∧ m.position < n.position

variable {name? : Component → Option String} {d : Document}

theorem mem_within {m : Mention} :
    m ∈ within name? d ↔ m.document = d ∧
      ∃ c, Component.atPosition? d.tree m.position = some c ∧ name? c = some m.name := by
  obtain ⟨document,q,s⟩ := m
  simp only [within,List.mem_filterMap,Option.map_eq_some_iff,Option.bind_eq_some_iff,mk.injEq]
  constructor
  · rintro ⟨q,-,s,hc,rfl,rfl,rfl⟩
    exact ⟨rfl,hc⟩
  · rintro ⟨rfl,c,hc,hname⟩
    have hq : q ∈ Component.positions document.tree := Component.mem_positions.mpr (by simp [hc])
    exact ⟨q,hq,s,⟨c,hc,hname⟩,rfl,rfl,rfl⟩

theorem pairwise_within : (within name? d).Pairwise Before := by
  refine List.Pairwise.filterMap _ (fun q r hlt m hm n hn => ?_) (Component.pairwise_positions d.tree)
  obtain ⟨s,-,rfl⟩ := Option.map_eq_some_iff.mp hm
  obtain ⟨t,-,rfl⟩ := Option.map_eq_some_iff.mp hn
  exact Or.inr ⟨rfl,hlt⟩

theorem map_name_within :
    (within name? d).map name = (Component.collect d.tree).filterMap name? := by
  have hlist := congrArg (List.filterMap fun c => c.bind name?) (Component.map_atPosition? d.tree)
  rw [List.filterMap_map,List.filterMap_map] at hlist
  rw [within,List.map_filterMap]
  simpa [Function.comp_def] using hlist

end Mention

namespace Project

/-- The documents that have components: the pages by id, then the fragments by id. -/
def layoutDocuments (p : Project) : List Document :=
  p.pages.values.map .page ++ p.fragments.values.map .fragment

def mentions (name? : Component → Option String) (p : Project) : List Mention :=
  p.layoutDocuments.flatMap (Mention.within name?)

theorem layouts_eq (p : Project) :
    p.layouts = p.layoutDocuments.map fun d => (d.body,Component.collect d.tree) := by
  simp only [layouts,layoutDocuments,List.map_append,List.map_map]
  rfl

theorem references_eq (name? : Component → Option String) (p : Project) :
    p.references name? = (p.mentions name?).map fun m => ⟨m.document.body,m.name⟩ := by
  rw [references,layouts_eq,List.flatMap_map,mentions,List.map_flatMap]
  refine List.flatMap_congr fun d _ => ?_
  dsimp only
  rw [← Mention.map_name_within,List.map_map]
  refine List.map_congr_left fun m hm => ?_
  obtain ⟨rfl,-⟩ := Mention.mem_within.mp hm
  rfl

/-- The mention is one of the project: the component at its position is there and uses the name. -/
structure Mentions (p : Project) (names : String → Component → Prop) (m : Mention) : Prop where
  document : m.document ∈ p.layoutDocuments
  component : ∃ c, Component.atPosition? m.document.tree m.position = some c ∧ names m.name c

/-- The list has each mention of the project once and in order, and nothing else. -/
structure Enumerates (p : Project) (names : String → Component → Prop) (ms : List Mention) :
    Prop where
  mem_iff : ∀ m, m ∈ ms ↔ p.Mentions names m
  inOrder : ms.Pairwise Mention.Before

theorem mem_mentions {p : Project} {name? : Component → Option String}
    {names : String → Component → Prop} (hnames : ∀ c s, name? c = some s ↔ names s c)
    (m : Mention) : m ∈ p.mentions name? ↔ p.Mentions names m := by
  simp only [mentions,List.mem_flatMap,Mention.mem_within,hnames]
  constructor
  · rintro ⟨d,hd,rfl,hc⟩
    exact ⟨hd,hc⟩
  · rintro ⟨hd,hc⟩
    exact ⟨m.document,hd,rfl,hc⟩

theorem isSome_fragment? (p : Project) (id : String) :
    (p.fragment? id).isSome = true ↔ id ∈ p.fragments.values.map Fragment.id :=
  Catalog.isSome_get?

theorem pairwise_slot (p : Project) :
    p.layoutDocuments.Pairwise fun d e => d.slot.Before e.slot := by
  have hpages := p.pages.pairwise_name
  have hfragments := p.fragments.pairwise_name
  rw [List.pairwise_map] at hpages hfragments
  rw [layoutDocuments,List.pairwise_append,List.pairwise_map,List.pairwise_map]
  refine ⟨hpages,hfragments,fun d hd e he => ?_⟩
  obtain ⟨page,-,rfl⟩ := List.mem_map.mp hd
  obtain ⟨fragment,-,rfl⟩ := List.mem_map.mp he
  exact trivial

theorem enumerates (p : Project) {name? : Component → Option String}
    {names : String → Component → Prop} (hnames : ∀ c s, name? c = some s ↔ names s c) :
    p.Enumerates names (p.mentions name?) where
  mem_iff := mem_mentions hnames
  inOrder := by
    rw [mentions,List.pairwise_flatMap]
    refine ⟨fun d _ => Mention.pairwise_within,p.pairwise_slot.imp fun hbefore m hm n hn => ?_⟩
    obtain ⟨rfl,-⟩ := Mention.mem_within.mp hm
    obtain ⟨rfl,-⟩ := Mention.mem_within.mp hn
    exact Or.inl hbefore

end Project
end AppLint
