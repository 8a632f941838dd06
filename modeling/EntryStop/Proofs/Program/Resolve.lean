import EntryStop.Program.Entry
import EntryStop.Proofs.Tracing.Notice

/-!
# Resolving an entry with and without details

All that is told while an entry is resolved are details, and the entry does not depend
on whether they are told.
-/

namespace EntryStop
namespace Entry

theorem essential_readImage (parse : Image.Parser) (logging : Bool) (path : String)
    (contents : Except FileError (List UInt8)) :
    Notice.essential (readImage parse logging path contents).1 = [] := by
  unfold readImage
  split
  · rfl
  · split
    · rfl
    · rfl

theorem readImage_image (parse : Image.Parser) (logging : Bool) (path : String)
    (contents : Except FileError (List UInt8)) :
    (readImage parse logging path contents).2 = imageOf parse path contents := by
  unfold readImage
  split
  · next h => rw [h]
  · next h =>
      rw [h]
      split
      · rfl
      · rfl

theorem essential_if_logging {n : Notice} (h : n.isDetail = true) (logging : Bool) :
    Notice.essential (if logging then [n] else []) = [] := by
  cases logging with
  | false => rfl
  | true => exact Notice.essential_singleton_of_isDetail h

theorem essential_resolve (logging : Bool) (pid : Pid) (source : Source) :
    Notice.essential (resolve logging pid source).1 = [] := by
  unfold resolve
  cases codeMapping pid source with
  | error e => rfl
  | ok m =>
      have hmapped := essential_if_logging (n := .mapped pid m) rfl logging
      have himage := essential_readImage source.parse logging m.pathname
        (source.file m.pathname)
      dsimp only
      cases hread : readImage source.parse logging m.pathname (source.file m.pathname) with
      | mk told image =>
          rw [hread] at himage
          have hfirst := Notice.essential_append_of_details himage
            (if logging then [.mapped pid m] else [])
          rw [hmapped] at hfirst
          cases image with
          | error failure => exact hfirst
          | ok info =>
              dsimp only
              cases place m info with
              | error failure => exact hfirst
              | ok placed =>
                  have hlast := essential_if_logging
                    (n := .resolved pid m placed.1 placed.2) rfl logging
                  exact (Notice.essential_append_of_details hlast _).trans hfirst

theorem resolve_answer (logging : Bool) (pid : Pid) (source : Source) :
    (resolve logging pid source).2 = (resolve false pid source).2 := by
  unfold resolve
  cases codeMapping pid source with
  | error e => rfl
  | ok m =>
      have himage := readImage_image source.parse logging m.pathname (source.file m.pathname)
      rw [← readImage_image source.parse false] at himage
      dsimp only
      cases hread : readImage source.parse logging m.pathname (source.file m.pathname) with
      | mk told image =>
          cases hsilent : readImage source.parse false m.pathname (source.file m.pathname) with
          | mk told' image' =>
              rw [hread, hsilent] at himage
              cases himage
              cases image with
              | error failure => rfl
              | ok info =>
                  dsimp only
                  cases place m info with
                  | error failure => rfl
                  | ok placed => rfl

theorem readImage_silent (parse : Image.Parser) (path : String)
    (contents : Except FileError (List UInt8)) :
    readImage parse false path contents = ([], imageOf parse path contents) := by
  unfold readImage
  split
  · next h => rw [h]
  · next h => rw [h]; rfl

theorem resolve_silent (pid : Pid) (source : Source) :
    (resolve false pid source).1 = [] := by
  unfold resolve
  cases codeMapping pid source with
  | error e => rfl
  | ok m =>
      dsimp only
      rw [readImage_silent]
      cases imageOf source.parse m.pathname (source.file m.pathname) with
      | error failure => rfl
      | ok info =>
          dsimp only
          cases place m info with
          | error failure => rfl
          | ok placed => rfl

end Entry
end EntryStop
