import Astronomer.Base.Interaction
import Astronomer.Rbac.Bindings

/-!
# A load as its queries

The queries of a load are separate statements, and a role can change between any two of them.
Here the load is a program that asks one after the other.
-/

namespace Astronomer.Rbac

def Query.Rows : Query → Type
  | .getUserByID => Option User
  | .listUserBindingsWithRoles => List UserBindingRow
  | .listProjectNamespaces _ => List ProjectNamespace

def Query.Answer (q : Query) : Type := Except Err q.Rows

abbrev Load (α : Type) := Prog Query Query.Answer (Except Err α)

def Env.answer (env : Env) (userID : String) : (q : Query) → q.Answer
  | .getUserByID =>
    env.ask .getUserByID ((env.parse userID).bind fun id => env.db.users.find? (·.id == id))
  | .listUserBindingsWithRoles =>
    env.ask .listUserBindingsWithRoles
      ((env.parse userID).elim [] env.db.listUserBindingsWithRoles)
  | .listProjectNamespaces project =>
    env.ask (.listProjectNamespaces project) (env.db.listProjectNamespaces project)

namespace Load

def andThen {α β : Type} (x : Load α) (f : α → Load β) : Load β :=
  x.bind fun
    | .ok a => f a
    | .error err => .ret (.error err)

def ask (q : Query) : Load q.Rows := Prog.ask q

variable (parse : String → Option UUID)

def namespacesOf (cache : Env.NamespaceCache) (projectID : String) :
    Load (List ProjectNamespace × Env.NamespaceCache) :=
  match cache.lookup projectID with
  | some rows => .ret (.ok (rows, cache))
  | none =>
    match parse projectID with
    | none => .ret (.ok ([], (projectID, []) :: cache))
    | some id =>
      (ask (.listProjectNamespaces id)).andThen fun rows =>
        .ret (.ok (rows, (projectID, rows) :: cache))

def expandBinding (userID : String) (st : Env.NamespaceCache × List RoleBinding)
    (b : RoleBinding) : Load (Env.NamespaceCache × List RoleBinding) :=
  if b.scope != some .project || b.projectID == "" then .ret (.ok st)
  else
    (namespacesOf parse st.1 b.projectID).andThen fun (rows, cache) =>
      .ret (.ok (cache, st.2 ++ Env.synthetic userID b rows))

def expandBindings (userID : String) :
    Env.NamespaceCache × List RoleBinding → List RoleBinding →
      Load (Env.NamespaceCache × List RoleBinding)
  | st, [] => .ret (.ok st)
  | st, b :: bs => (expandBinding parse userID st b).andThen fun st => expandBindings userID st bs

def expandProjectBindings (userID : String) (bindings : List RoleBinding) :
    Load (List RoleBinding) :=
  (expandBindings parse userID ([], []) bindings).andThen fun (_, extra) =>
    .ret (.ok (bindings ++ extra))

def superuser : Query.Answer .getUserByID → Bool
  | .ok (some (user : User)) => user.isSuperuser
  | _ => false

end Load

def loadUserBindings (parse : String → Option UUID) (userID : String) : Load (List RoleBinding) :=
  match parse userID with
  | none => .ret (.error "invalid UUID")
  | some _ =>
    Prog.call .getUserByID fun user =>
      if Load.superuser user then .ret (.ok [{ userID := userID, isSuperuser := true }])
      else
        (Load.ask .listUserBindingsWithRoles).andThen fun rows =>
          match rows.mapM (bindingOf userID) with
          | .error err => .ret (.error err)
          | .ok results => Load.expandProjectBindings parse userID results

end Astronomer.Rbac
