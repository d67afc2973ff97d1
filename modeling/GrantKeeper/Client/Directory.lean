/-
Directories of registered clients. A client that is registered takes the place of one with the same
id, so `find?` answers for the last change of an id.
-/
import GrantKeeper.Client.Basic

namespace GrantKeeper

/-- The registered clients. -/
structure Directory where
  clients : List Client

namespace Directory

def empty : Directory := ⟨[]⟩

def find? (d : Directory) (id : String) : Option Client :=
  d.clients.find? (·.id == id)

def unregister (d : Directory) (id : String) : Directory :=
  ⟨d.clients.filter (·.id != id)⟩

/-- The directory with a client, in the place of any other of the same id. -/
def register (d : Directory) (client : Client) : Directory :=
  ⟨client :: (d.unregister client.id).clients⟩

/-- The directory of the given clients, the last of each id. -/
def ofList (clients : List Client) : Directory :=
  clients.foldl register empty

def Registered (d : Directory) (id : String) : Prop :=
  (d.find? id).isSome = true

@[simp] theorem find?_empty (id : String) : empty.find? id = none := rfl

@[simp] theorem find?_unregister_self (d : Directory) (id : String) :
    (d.unregister id).find? id = none := by
  simp [find?, unregister]

theorem find?_unregister_of_ne (d : Directory) {id other : String} (h : other ≠ id) :
    (d.unregister id).find? other = d.find? other := by
  simp only [find?, unregister, List.find?_filter]
  congr 1
  funext c
  by_cases hc : c.id = other
  · simp [hc, h]
  · simp [hc]

@[simp] theorem find?_register_self (d : Directory) (client : Client) :
    (d.register client).find? client.id = some client := by
  simp [find?, register]

theorem find?_register_of_ne (d : Directory) {client : Client} {id : String} (h : id ≠ client.id) :
    (d.register client).find? id = d.find? id := by
  rw [← find?_unregister_of_ne d h]
  simp [find?, register, Ne.symm h]

end Directory
end GrantKeeper
