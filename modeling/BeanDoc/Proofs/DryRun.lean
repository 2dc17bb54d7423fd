import BeanDoc.Proofs.EditLines
import BeanDoc.Proofs.OpenedDatabase
import BeanDoc.Proofs.RunComments

/-! Dry runs. A dry run prints the edits that the run itself would make and leaves the files alone,
apart from the empty file of a database that it opens for the first time. -/

namespace BeanDoc

section

variable {t : Files} {databaseUrl : Option String}

theorem FileTree.readTextIn_eq_ok_iff {directory : List String} {name content : String} :
    t.readTextIn directory name = .ok content ↔
      Path.hasNul name = false ∧ Path.isTooLong name = false ∧
        t.node? (directory ++ [name]) = some (.file (.text content)) := by
  unfold readTextIn readIn nodeIn
  cases Path.hasNul name with
  | true => simp
  | false =>
    cases Path.isTooLong name with
    | true => simp
    | false => rcases t.node? (directory ++ [name]) with _ | (_ | (_ | _ | _)) <;>
        simp [FileContent.toText]

namespace ClassModel

variable {path : String} {c : ClassModel}

theorem locate_of_keepsDirectories {u : Files} (hkeeps : t.KeepsDirectories u)
    {place : List String × String} (h : locate t path = .ok place) :
    locate u path = .ok place := by
  unfold locate at h ⊢
  split at h
  · cases h
  · split at h
    · cases h
    · next hopen =>
      rw [hkeeps.openDirectory hopen]
      exact h

end ClassModel

end

variable {s : Settings} {t : Files} {report : Report}

end BeanDoc
