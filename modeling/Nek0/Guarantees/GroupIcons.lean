import Mathlib.Data.List.Forall2
import Nek0.Source.Roster

/-!
# Icons beside the names of server groups

The names are sorted alone and the icons with their names. Both sorts are stable, so they put the
groups into the same order.
-/

namespace Nek0.Guarantees

open Nek0.Source.Roster

/-- A row of the roster lists the groups that its client has in the table, each with its icon. -/
structure GroupsPaired (book : Book) (client : BookClient) (row : TsClient) : Prop where
  id : row.id = client.id.toUInt32
  lengths : row.serverGroupNames.length = row.serverGroupIconIds.length
  pairs : (row.serverGroupNames.zip row.serverGroupIconIds).Perm (groups book client)

section Sorts

variable (groups : List (String × UInt32))

/-- The order in which both lists are. -/
def byName : List (String × UInt32) :=
  groups.mergeSort fun left right => decide (left.1 ≤ right.1)

/-- The order by name looks at nothing else, so sorting commutes with taking the names. -/
theorem serverGroupNames_eq : serverGroupNames groups = (byName groups).map Prod.fst := by
  rw [byName, List.map_mergeSort (s := fun left right => decide (left ≤ right))]
  · rfl
  · intro left _ right _
    rfl

theorem zip_names_icons :
    (serverGroupNames groups).zip (serverGroupIconIds groups) = byName groups := by
  rw [serverGroupNames_eq]
  exact (List.zip_of_prod rfl rfl).symm

end Sorts

end Nek0.Guarantees
