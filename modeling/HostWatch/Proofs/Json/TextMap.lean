import HostWatch.Alert.Alert
import HostWatch.Proofs.Json.Containers
import HostWatch.Proofs.NameMap

/-!
# Maps of texts are read back

`takes_textMap`: a map of texts is read back from the object that writes it, wherever it stands.
-/

namespace HostWatch.Json

theorem takes_string (room : Nat) (s : String) :
    Takes (Shape.string.ofText room) (quotedBytes s) s := by
  intro rest place _
  obtain ⟨place', e⟩ := readString_quote s rest (place.after 0x22)
  refine ⟨place', ?_⟩
  rw [Shape.string]
  simp only [quotedBytes, List.cons_append, skipGap_cons (show isGapByte 0x22 = false by decide), Cursor.peek?,
    List.head?_cons, if_true, Cursor.advance]
  exact e

theorem takes_text (room : Nat) (s : String) :
    Takes (Shape.string.ofText room) (Text.utf8 (render (.str s))) s := by
  rw [render, utf8_quote]
  exact takes_string room s

theorem utf8_renderTextMap (m : NameMap String) :
    Text.utf8 (render (.obj (Alert.textMembers m))) =
      0x7B :: (membersBytes quotedBytes m.entries ++ [0x7D]) := by
  have texts : (fun s => Text.utf8 (render (.str s))) = quotedBytes := by
    funext s
    rw [render, utf8_quote]
    rfl
  rw [utf8_render_obj, Alert.textMembers, membersBytes_map, texts]

/-- **Maps of texts.** A map of texts is read back from the object that writes it. -/
theorem takes_textMap (room : Nat) (m : NameMap String) :
    Takes (Shape.textMap.ofText (room + 1))
      (Text.utf8 (render (.obj (Alert.textMembers m)))) m := by
  intro rest place _
  have texts : ∀ e ∈ m.entries, Takes (Shape.string.ofText room) (quotedBytes e.2) (id e.2) :=
    fun e _ => takes_string room e.2
  obtain ⟨place', e⟩ := readMembers_written m.entries texts
    (0x7B :: (membersBytes quotedBytes m.entries ++ 0x7D :: rest)) rest (place.after 0x7B)
    (Nat.lt_succ_self _)
  simp only [id, List.map_id'] at e
  refine ⟨place', ?_⟩
  rw [utf8_renderTextMap, List.cons_append, List.append_assoc, List.singleton_append, Shape.textMap]
  simp only [skipGap_cons (show isGapByte 0x7B = false by decide), Cursor.peek?, List.head?_cons,
    if_true, Cursor.advance, e, Except.map, NameMap.ofList_entries]

theorem read_textMap (m : NameMap String) :
    Shape.textMap.read (Text.utf8 (render (.obj (Alert.textMembers m)))) = .ok m := by
  obtain ⟨place, e⟩ := takes_textMap 126 m [] ⟨1, 0⟩ (by simp [EndsValue])
  rw [List.append_nil] at e
  rw [Shape.read, Cursor.start, maxDepth, e]
  rfl

end HostWatch.Json
