/-!
# Durations

Whole milliseconds as a message shows them: below a second in milliseconds, from a
second on in seconds with as many of the three decimal places as are needed.
-/

namespace LspClient.Text

/-- The three decimal places of `millis` thousandths without the zeros at their end. -/
def thousandths (millis : Nat) : String :=
  if millis % 1000 = 0 then ""
  else if millis % 100 = 0 then "." ++ toString (millis % 1000 / 100)
  else
    let tenths := toString (millis % 1000 / 100)
    if millis % 10 = 0 then "." ++ tenths ++ toString (millis % 100 / 10)
    else "." ++ tenths ++ toString (millis % 100 / 10) ++ toString (millis % 10)

/-- A duration of `millis` milliseconds; nothing at all is shown as `0ns`. -/
def duration (millis : Nat) : String :=
  if millis = 0 then "0ns"
  else if millis < 1000 then toString millis ++ "ms"
  else toString (millis / 1000) ++ thousandths millis ++ "s"

end LspClient.Text
