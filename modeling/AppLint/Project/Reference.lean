import AppLint.Project

/-! What pages and fragments refer to. -/
namespace AppLint

/-- A name that a document uses. -/
structure Reference where
  body : Body
  target : String

namespace Project

/-- Where components stand: the pages by id, then the fragments by id. -/
def layouts (p : Project) : List (Body × List Component) :=
  p.pages.values.map (fun page => (page.body,page.components)) ++
    p.fragments.values.map (fun fragment => (fragment.body,fragment.components))

/-- What the components name by `name?`, in the order of the documents and their components. -/
def references (name? : Component → Option String) (p : Project) : List Reference :=
  p.layouts.flatMap fun (body,components) => (components.filterMap name?).map fun s => ⟨body,s⟩

/-- All uses of fragments. -/
def embeddings (p : Project) : List Reference := p.references Component.fragmentRef?

/-- All uses of data providers. -/
def bindings (p : Project) : List Reference := p.references Component.dataSource?

end Project
end AppLint
