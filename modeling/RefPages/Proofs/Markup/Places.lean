import RefPages.Proofs.Markup.Draft

namespace RefPages.Markup

mutual

theorem Node.serial_of_mem_places {id : Nat} {n : Node} {ancestors : List Element}
    {following : List Node} {p : Place} (h : p ∈ (n.number id).places ancestors following) :
    id ≤ p.element.serial ∧ p.element.serial < id + n.count := by
  cases n with
  | element e children =>
    rw [Node.number, Node.places] at h
    rw [Node.count]
    rcases List.mem_cons.mp h with rfl | h
    · exact ⟨Nat.le_refl id, by dsimp only; omega⟩
    · have := serial_of_mem_forestPlaces h
      omega
  | text t => cases h
  | comment t => cases h

theorem serial_of_mem_forestPlaces {id : Nat} {ns : List Node} {ancestors : List Element}
    {p : Place} (h : p ∈ forestPlaces ancestors (numberAll id ns)) :
    id ≤ p.element.serial ∧ p.element.serial < id + forestCount ns := by
  cases ns with
  | nil => cases h
  | cons n rest =>
    rw [numberAll, forestPlaces] at h
    rw [forestCount]
    rcases List.mem_append.mp h with h | h
    · have := Node.serial_of_mem_places h
      omega
    · have := serial_of_mem_forestPlaces h
      omega

end

def Place.NoLater (a b : Place) : Prop :=
  a.element.serial ≤ b.element.serial

instance (a b : Place) : Decidable (a.NoLater b) :=
  inferInstanceAs (Decidable (a.element.serial ≤ b.element.serial))

mutual

theorem Node.pairwise_places (id : Nat) (n : Node) (ancestors : List Element)
    (following : List Node) :
    ((n.number id).places ancestors following).Pairwise Place.NoLater := by
  cases n with
  | element e children =>
    rw [Node.number, Node.places, List.pairwise_cons]
    refine ⟨?_, pairwise_forestPlaces (id + 1) children _⟩
    intro p hp
    exact Nat.le_of_succ_le (serial_of_mem_forestPlaces hp).1
  | text t => exact List.Pairwise.nil
  | comment t => exact List.Pairwise.nil

theorem pairwise_forestPlaces (id : Nat) (ns : List Node) (ancestors : List Element) :
    (forestPlaces ancestors (numberAll id ns)).Pairwise Place.NoLater := by
  cases ns with
  | nil => exact List.Pairwise.nil
  | cons n rest =>
    rw [numberAll, forestPlaces, List.pairwise_append]
    refine ⟨n.pairwise_places id _ _, pairwise_forestPlaces _ rest _, ?_⟩
    intro p hp q hq
    have hlow := (Node.serial_of_mem_places hp).2
    have hhigh := (serial_of_mem_forestPlaces hq).1
    exact Nat.le_of_lt (Nat.lt_of_lt_of_le hlow hhigh)

end

theorem places_of_pairwise {d : Document} (hcut : d.cutOff.isEmpty = true)
    (h : (forestPlaces [] d.nodes).Pairwise Place.NoLater) : d.places = forestPlaces [] d.nodes := by
  rw [Document.places, List.isEmpty_iff.mp hcut, List.flatMap_nil, List.append_nil]
  apply List.mergeSort_of_pairwise
  apply h.imp
  exact fun h => decide_eq_true h

theorem places_numberAll (id : Nat) (ns : List Node) :
    Document.places { nodes := numberAll id ns } = forestPlaces [] (numberAll id ns) :=
  places_of_pairwise rfl (pairwise_forestPlaces id ns [])

end RefPages.Markup
