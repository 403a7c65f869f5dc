import TexFlat.Proofs.Directive.Silence
import TexFlat.Proofs.Path.Hereditary

/-!
# Paths in which no command stands

Joining, normalising and taking the directory make no command out of paths that have none, since a
command has no slash in it.
-/

namespace TexFlat.Directive

theorem hereditary_mute : Path.Hereditary Mute :=
  .of_parts Mute.of_infix
    (fun first second => first.append (second.prepend (a := ['/']) (by decide)) (parted_cons rfl))
    (mute_of_not_mem (by decide))

theorem Mute.normalize {path : Path} (mute : Mute path.text) : Mute path.normalize.text :=
  hereditary_mute.normalize mute

theorem Mute.directory {path : Path} (mute : Mute path.text) : Mute path.directory.text :=
  hereditary_mute.directory mute

end TexFlat.Directive
