/-! Spans of time in words, for diagnostics: nanoseconds for none at all, milliseconds below a second,
seconds with as many decimals as it takes from there on. -/
namespace DirectoryClient.Text

def decimals (thousandths : Nat) : List Char :=
  let digits := (Nat.toDigits 10 (1000 + thousandths)).tail
  (digits.reverse.dropWhile (· == '0')).reverse

def duration (millis : Nat) : String :=
  if millis = 0 then "0ns"
  else if millis < 1000 then toString millis ++ "ms"
  else
    let decimals := decimals (millis % 1000)
    toString (millis / 1000) ++ String.ofList (if decimals.isEmpty then [] else '.' :: decimals)
      ++ "s"

end DirectoryClient.Text
