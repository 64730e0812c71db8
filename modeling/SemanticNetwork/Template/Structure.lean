/-
**Templates from structures.** A structure is a template written down in the network: each edge
among its members is a triple, each variable member a position to be filled, and every other member
a fixed element. Members are named after their addresses.

* `Template.orderEdges`: edges after the edges they connect;
* `Template.ofStructure`: the template of a structure.
-/
import SemanticNetwork.Template.Search

namespace SemanticNetwork.Template

/-- One pass over edges: an edge is placed when the listed edges among its ends are, the others are
left for a later pass. -/
def placeReady (listed : List Address) : List Address → List Triple → List Triple × List Triple
  | _, [] => ([], [])
  | placed, triple :: rest =>
    let ready := [triple.source, triple.target].all fun endpoint =>
      !listed.contains endpoint || placed.contains endpoint
    if ready then
      let (ordered, left) := placeReady listed (triple.edge :: placed) rest
      (triple :: ordered, left)
    else
      let (ordered, left) := placeReady listed placed rest
      (ordered, triple :: left)

/-- Pass over edges until all are placed; when a pass places none, the others keep their order. -/
def orderPending (listed placed : List Address) (triples : List Triple) : List Triple :=
  let passed := placeReady listed placed triples
  if passed.2.length < triples.length then
    passed.1 ++ orderPending listed (passed.1.map Triple.edge ++ placed) passed.2
  else passed.1 ++ passed.2
termination_by triples.length

/-- Order edges so that each comes after the edges it connects. -/
def orderEdges (triples : List Triple) : List Triple :=
  orderPending (triples.map Triple.edge) [] triples

/-- The name of a member. -/
def memberName (member : Address) : String := "_" ++ toString member.value

/-- The item of a member: where it first occurs it says what it is, later it is a reference. -/
def memberItem (store : Store) (member : Address) (introduced : List Address) :
    Except TemplateError (Item × List Address) :=
  if introduced.contains member then .ok (.reference (memberName member), introduced)
  else
    match store.type? member with
    | none => .error (.store (.elementNotFound member))
    | some type =>
      let item := if type.isVariable then Item.typed type else Item.fixed member
      .ok (item.named (memberName member), member :: introduced)

/-- The members of a structure, ascending and each once. -/
def sortedMembers (store : Store) (structureNode : Address) : List Address :=
  ((store.members structureNode).foldl (fun known member => known.insert member ())
    KeyMap.empty).keys

/-- The edge at a member with its ends, which have to be members too. -/
def memberTriple? (store : Store) (structureNode : Address) (members : List Address)
    (member : Address) : Except TemplateError (Option Triple) :=
  match store.ends? member with
  | none => .ok none
  | some (source, target) =>
    match [source, target].find? fun endpoint => !members.contains endpoint with
    | some endpoint => .error (.memberOutside structureNode member endpoint)
    | none => .ok (some ⟨source, member, target⟩)

/-- The edges among the members of a structure. -/
def memberTriples (store : Store) (structureNode : Address) :
    Except TemplateError (List Triple) := do
  let members := sortedMembers store structureNode
  let found ← members.mapM (memberTriple? store structureNode members)
  return found.filterMap id

/-- Append the triple of an edge; its ends are introduced before it. -/
def addMemberTriple (store : Store) (state : Template × List Address) (triple : Triple) :
    Except TemplateError (Template × List Address) := do
  let (template, introduced) := state
  let (source, introduced) ← memberItem store triple.source introduced
  let (target, introduced) ← memberItem store triple.target introduced
  let (edge, introduced) ← memberItem store triple.edge introduced
  return (template.triple source edge target, introduced)

/-- The template of a structure. -/
def ofStructure (store : Store) (structureNode : Address) : Except TemplateError Template := do
  if !store.contains structureNode then throw (.store (.elementNotFound structureNode))
  let triples ← memberTriples store structureNode
  if triples.isEmpty then throw (.emptyStructure structureNode)
  let (template, _) ← (orderEdges triples).foldlM (addMemberTriple store) (Template.empty, [])
  return template

end SemanticNetwork.Template
