import MediaSync.Foundation.Text
import Mathlib.Data.List.Chain

/-! The depth-first visit of a directed graph with two sets of marks: the nodes whose visit has
begun, and those whose visit is over. -/
namespace MediaSync.DepthFirst

variable {α : Type}

structure Marks (α : Type) where
  visiting : List α := []
  visited : List α := []

def IsPath (edges : α → List α) (path : List α) : Prop := path.IsChain fun a b => b ∈ edges a

/-- No node reaches itself. -/
def Acyclic (edges : α → List α) : Prop :=
  ∀ node, ¬ Relation.TransGen (fun a b => b ∈ edges a) node node

/-- No path has more nodes than calls fit on the stack. -/
def Shallow (edges : α → List α) (frames : Nat) : Prop :=
  ∀ path, IsPath edges path → path.length ≤ frames

variable {edges edges' : α → List α}

theorem Acyclic.congr (h : ∀ a b, b ∈ edges a ↔ b ∈ edges' a) : Acyclic edges ↔ Acyclic edges' := by
  have hsame : (fun a b => b ∈ edges a) = fun a b => b ∈ edges' a :=
    funext fun a => funext fun b => propext (h a b)
  simp only [Acyclic, hsame]

theorem Shallow.congr {frames : Nat} (h : ∀ a b, b ∈ edges a ↔ b ∈ edges' a) :
    Shallow edges frames ↔ Shallow edges' frames := by
  have hsame : (fun a b => b ∈ edges a) = fun a b => b ∈ edges' a :=
    funext fun a => funext fun b => propext (h a b)
  simp only [Shallow, IsPath, hsame]

theorem Acyclic.of_rank {edges : α → List α} (rank : α → Nat)
    (h : ∀ a, ∀ b ∈ edges a, rank a < rank b) : Acyclic edges := by
  have hlt : ∀ a b, Relation.TransGen (fun a b => b ∈ edges a) a b → rank a < rank b := by
    intro a b hreach
    induction hreach with
    | single hedge => exact h _ _ hedge
    | tail _ hedge ih => exact ih.trans (h _ _ hedge)
  exact fun node hcycle => Nat.lt_irrefl _ (hlt node node hcycle)

theorem IsPath.pairwise {edges : α → List α} {path : List α} (h : IsPath edges path) :
    path.Pairwise (Relation.TransGen fun a b => b ∈ edges a) :=
  List.isChain_iff_pairwise.mp (List.IsChain.imp (fun _ _ => .single) h)

variable [DecidableEq α]

def visit (edges : α → List α) (cycle : String) : Nat → Marks α → α → Except String (Marks α)
  | 0, _, _ => .error "RecursionError"
  | frames + 1, marks, node =>
    if node ∈ marks.visited then .ok marks
    else if node ∈ marks.visiting then .error cycle
    else do
      let begun : Marks α := { marks with visiting := node :: marks.visiting }
      let left ← (edges node).foldlM (visit edges cycle frames) begun
      return { visiting := left.visiting.erase node, visited := node :: left.visited }

def rejectCycles (frames : Nat) (nodes : List α) (edges : α → List α) (cycle : String) :
    Except String (Marks α) :=
  nodes.foldlM (visit edges cycle frames) {}

section
variable {nodes : List α} {edges : α → List α} {cycle : String} {frames : Nat}

variable {marks : Marks α}

theorem visit_fresh {node : α} (hvisited : node ∉ marks.visited)
    (hvisiting : node ∉ marks.visiting) :
    visit edges cycle (frames + 1) marks node =
      (edges node).foldlM (visit edges cycle frames)
          { marks with visiting := node :: marks.visiting } >>= fun left =>
        .ok { visiting := left.visiting.erase node, visited := node :: left.visited } := by
  rw [visit, if_neg hvisited, if_neg hvisiting]
  rfl

/-- What is visited is closed under successors and not being visited. -/
structure Marks.Sound (edges : α → List α) (marks : Marks α) : Prop where
  apart : ∀ node ∈ marks.visiting, node ∉ marks.visited
  closed : ∀ node ∈ marks.visited, ∀ next ∈ edges node, next ∈ marks.visited
  acyclic : ∀ node ∈ marks.visited, ¬ Relation.TransGen (fun a b => b ∈ edges a) node node

omit [DecidableEq α] in
theorem Marks.Sound.empty : ({} : Marks α).Sound edges :=
  ⟨fun _ h => absurd h List.not_mem_nil, fun _ h => absurd h List.not_mem_nil,
    fun _ h => absurd h List.not_mem_nil⟩

/-- What a visit leaves: the same visits under way, and more that are over. -/
structure Marks.Extends (edges : α → List α) (marks marks' : Marks α) : Prop where
  sound : marks'.Sound edges
  visiting : marks'.visiting = marks.visiting
  visited : ∀ node ∈ marks.visited, node ∈ marks'.visited

omit [DecidableEq α] in
theorem Marks.Sound.extends (h : marks.Sound edges) :
    marks.Extends edges marks := ⟨h, rfl, fun _ hnode => hnode⟩

omit [DecidableEq α] in
theorem Marks.Extends.trans {a b c : Marks α} (h : a.Extends edges b)
    (h' : b.Extends edges c) : a.Extends edges c :=
  ⟨h'.sound, h'.visiting.trans h.visiting, fun node hnode => h'.visited node (h.visited node hnode)⟩

omit [DecidableEq α] in
theorem Marks.Sound.reaches (h : marks.Sound edges) {a b : α} (ha : a ∈ marks.visited)
    (hreach : Relation.ReflTransGen (fun a b => b ∈ edges a) a b) : b ∈ marks.visited := by
  induction hreach with
  | refl => exact ha
  | tail _ hnext ih => exact h.closed _ ih _ hnext

def Raises (edges : α → List α) (frames : Nat) (visits : List α) : Prop :=
  ¬ Acyclic edges ∨ ∃ node ∈ visits, ∃ path, IsPath edges (node :: path) ∧ frames ≤ path.length

def Ends (edges : α → List α) (frames : Nat) (marks : Marks α) (visits : List α) :
    Except String (Marks α) → Prop
  | .ok marks' => marks.Extends edges marks' ∧ ∀ node ∈ visits, node ∈ marks'.visited
  | .error _ => Raises edges frames visits

omit [DecidableEq α] in
theorem Raises.mono {visits visits' : List α} (h : Raises edges frames visits)
    (hsub : ∀ node ∈ visits, node ∈ visits') : Raises edges frames visits' :=
  h.imp id fun ⟨node, hnode, hpath⟩ => ⟨node, hsub node hnode, hpath⟩

omit [DecidableEq α] in
theorem foldlM_ends {step : Marks α → α → Except String (Marks α)} {visits : List α}
    (hmarks : marks.Sound edges) (hstep : ∀ node ∈ visits, ∀ m : Marks α, marks.Extends edges m →
      Ends edges frames m [node] (step m node)) :
    Ends edges frames marks visits (visits.foldlM step marks) := by
  induction visits generalizing marks with
  | nil => exact ⟨hmarks.extends, fun _ hnode => absurd hnode List.not_mem_nil⟩
  | cons node rest ih =>
    have hfirst := hstep node List.mem_cons_self marks hmarks.extends
    rw [List.foldlM_cons]
    cases hresult : step marks node with
    | error code =>
      rw [hresult] at hfirst
      exact Raises.mono hfirst fun a ha => List.mem_singleton.mp ha ▸ List.mem_cons_self
    | ok next =>
      rw [hresult] at hfirst
      obtain ⟨hextends, hover⟩ := hfirst
      have hrest := ih hextends.sound fun other hother m hm =>
        hstep other (List.mem_cons_of_mem _ hother) m (hextends.trans hm)
      show Ends edges frames marks (node :: rest) (rest.foldlM step next)
      revert hrest
      cases rest.foldlM step next with
      | error code => exact fun h => Raises.mono h fun a ha => List.mem_cons_of_mem _ ha
      | ok last =>
        rintro ⟨hlast, hover'⟩
        refine ⟨hextends.trans hlast, fun other hother => ?_⟩
        rcases List.mem_cons.mp hother with rfl | hold
        · exact hlast.visited _ (hover _ List.mem_cons_self)
        · exact hover' other hold

theorem visit_spec (frames : Nat) :
    ∀ (marks : Marks α) (node : α), marks.Sound edges →
      (∀ a ∈ marks.visiting, Relation.TransGen (fun a b => b ∈ edges a) a node) →
      Ends edges frames marks [node] (visit edges cycle frames marks node) := by
  induction frames with
  | zero =>
    exact fun marks node _ _ =>
      .inr ⟨node, List.mem_singleton_self node, [], List.isChain_singleton node, Nat.le_refl 0⟩
  | succ frames ih =>
    intro marks node hmarks hreach
    by_cases hfresh : node ∈ marks.visited
    · rw [visit, if_pos hfresh]
      exact ⟨hmarks.extends, fun a ha => List.mem_singleton.mp ha ▸ hfresh⟩
    · by_cases hunder : node ∈ marks.visiting
      · rw [visit, if_neg hfresh, if_pos hunder]
        exact .inl fun hacyclic => hacyclic node (hreach node hunder)
      · rw [visit_fresh hfresh hunder]
        have hbegun : ({ marks with visiting := node :: marks.visiting } : Marks α).Sound
            edges := by
          refine ⟨fun a ha => ?_, hmarks.closed, hmarks.acyclic⟩
          rcases List.mem_cons.mp ha with rfl | hold
          · exact hfresh
          · exact hmarks.apart a hold
        -- the successors are visited with the node itself under visit
        have hloop : Ends edges frames { marks with visiting := node :: marks.visiting }
            (edges node) ((edges node).foldlM (visit edges cycle frames)
              { marks with visiting := node :: marks.visiting }) :=
          foldlM_ends hbegun fun next hnext m hm => by
            refine ih m next hm.sound fun a ha => ?_
            rw [hm.visiting] at ha
            rcases List.mem_cons.mp ha with rfl | hold
            · exact .single hnext
            · exact (hreach a hold).tail hnext
        generalize (edges node).foldlM (visit edges cycle frames)
          { marks with visiting := node :: marks.visiting } = result at hloop ⊢
        cases result with
        | error code =>
          refine hloop.imp id ?_
          rintro ⟨next, hnext, path, hpath, hlong⟩
          exact ⟨node, List.mem_singleton_self node, next :: path,
            List.isChain_cons_cons.mpr ⟨hnext, hpath⟩, Nat.succ_le_succ hlong⟩
        | ok left =>
          obtain ⟨hleft, hnexts⟩ := hloop
          show Ends edges (frames + 1) marks [node] (.ok
            { visiting := left.visiting.erase node, visited := node :: left.visited })
          -- the node leaves the stack and is visited
          have hvisiting : left.visiting = node :: marks.visiting := hleft.visiting
          have hnot : node ∉ left.visited :=
            hleft.sound.apart node (hvisiting ▸ List.mem_cons_self)
          have hback : left.visiting.erase node = marks.visiting := by
            rw [hvisiting, List.erase_cons_head]
          refine ⟨⟨⟨?_, ?_, ?_⟩, hback, ?_⟩, ?_⟩
          · show ∀ a ∈ left.visiting.erase node, a ∉ node :: left.visited
            rw [hback]
            intro a ha hmem
            rcases List.mem_cons.mp hmem with rfl | hold
            · exact hunder ha
            · exact hleft.sound.apart a (hvisiting ▸ List.mem_cons_of_mem _ ha) hold
          · intro a ha next hnext
            rcases List.mem_cons.mp ha with rfl | hold
            · exact List.mem_cons_of_mem _ (hnexts next hnext)
            · exact List.mem_cons_of_mem _ (hleft.sound.closed a hold next hnext)
          · intro a ha
            rcases List.mem_cons.mp ha with rfl | hold
            · -- the way back from a successor would go through visited nodes alone
              intro hcycle
              obtain ⟨next, hnext, hrest⟩ := Relation.TransGen.head'_iff.mp hcycle
              exact hnot (hleft.sound.reaches (hnexts next hnext) hrest)
            · exact hleft.sound.acyclic a hold
          · exact fun a ha => List.mem_cons_of_mem _ (hleft.visited a ha)
          · exact fun a ha => List.mem_singleton.mp ha ▸ List.mem_cons_self

theorem rejectCycles_ends : Ends edges frames {} nodes (rejectCycles frames nodes edges cycle) :=
  foldlM_ends .empty fun node _ m hm =>
    visit_spec frames m node hm.sound fun a ha => by
      rw [hm.visiting] at ha
      exact absurd ha List.not_mem_nil

theorem Acyclic.of_rejectCycles (hnodes : ∀ a, ∀ b ∈ edges a, a ∈ nodes)
    (h : rejectCycles frames nodes edges cycle = .ok marks) : Acyclic edges := by
  have hends : Ends edges frames {} nodes (rejectCycles frames nodes edges cycle) :=
    rejectCycles_ends
  rw [h] at hends
  intro node hcycle
  obtain ⟨next, hnext, -⟩ := Relation.TransGen.head'_iff.mp hcycle
  exact hends.1.sound.acyclic node (hends.2 node (hnodes node next hnext)) hcycle

theorem rejectCycles_of_acyclic (hacyclic : Acyclic edges) (hshallow : Shallow edges frames) :
    ∃ marks, rejectCycles frames nodes edges cycle = .ok marks := by
  have hends : Ends edges frames {} nodes (rejectCycles frames nodes edges cycle) :=
    rejectCycles_ends
  revert hends
  cases rejectCycles frames nodes edges cycle with
  | ok marks => exact fun _ => ⟨marks, rfl⟩
  | error code =>
    rintro (hcycle | ⟨node, -, path, hpath, hlong⟩)
    · exact absurd hacyclic hcycle
    · have hshort := hshallow _ hpath
      rw [List.length_cons] at hshort
      omega

theorem visit_follows {path : List α} :
    ∀ (frames : Nat) (node : α) (marks : Marks α), (node :: path).Nodup →
      (node :: path).IsChain (fun a b => (edges a).head? = some b) →
      (∀ a ∈ node :: path, a ∉ marks.visited ∧ a ∉ marks.visiting) → frames ≤ path.length →
      ∃ code, visit edges cycle frames marks node = .error code := by
  induction path with
  | nil =>
    intro frames node marks _ _ _ hlong
    obtain rfl : frames = 0 := Nat.le_zero.mp hlong
    exact ⟨_, rfl⟩
  | cons next path ih =>
    intro frames node marks hnodup hchain hfresh hlong
    cases frames with
    | zero => exact ⟨_, rfl⟩
    | succ frames =>
      obtain ⟨hhead, hrest⟩ := List.isChain_cons_cons.mp hchain
      obtain ⟨hnot, hnodup⟩ := List.nodup_cons.mp hnodup
      obtain ⟨hvisited, hvisiting⟩ := hfresh node List.mem_cons_self
      obtain ⟨others, hedges⟩ : ∃ others, edges node = next :: others :=
        List.head?_eq_some_iff.mp hhead
      obtain ⟨code, hraise⟩ := ih frames next { marks with visiting := node :: marks.visiting }
        hnodup hrest (fun a ha => by
          obtain ⟨hold, hunder⟩ := hfresh a (List.mem_cons_of_mem _ ha)
          refine ⟨hold, fun hmem => ?_⟩
          rcases List.mem_cons.mp hmem with rfl | hmem
          · exact hnot ha
          · exact hunder hmem) (Nat.le_of_succ_le_succ hlong)
      refine ⟨code, ?_⟩
      rw [visit_fresh hvisited hvisiting, hedges, List.foldlM_cons, hraise]
      rfl

end

end MediaSync.DepthFirst
