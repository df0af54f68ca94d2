import AppLint.Text.Category

/-! The versions of the character set in which characters came. -/
namespace AppLint
namespace Text

/-- The versions from the first on, each with a code. -/
def ages : List (String × String) :=
  [("1.1","a"),("2.0","b"),("2.1","c"),("3.0","d"),("3.1","e"),("3.2","f"),
   ("4.0","g"),("4.1","h"),("5.0","i"),("5.1","j"),("5.2","k"),("6.0","l"),
   ("6.1","m"),("6.2","n"),("6.3","o"),("7.0","p"),("8.0","q"),("9.0","r"),
   ("10.0","s"),("11.0","t"),("12.0","u"),("12.1","v"),("13.0","w"),("14.0","x"),
   ("15.0","y"),("15.1","z"),("16.0","A"),("17.0","B")]

/-- The code of every character's version; X for those that no version has. -/
def ageRuns : List (Nat × Nat × String) :=
  decodeRuns
    ["502a 4d 30a 8d 1f 1g 18d 3g 11h 14i 89a 5d 2g 47a 1d 10a 5d 17g 70a 9d 1f 8g 5h 3g 2a 1d 13f",
     "4j 2a 2j 2X 1a 3i 1a 1p 4X 7a 1X 1a 1X 20a 1X 44a 1j 7a 1d 2f 1a 1d 1a 1d 1a 1d 1a 1d 18a 2e",
     "1f 5g 4h 1d 12a 1d 66a 1d 12a 1d 41a 1j 2d 2f 4d 53a 2f 2a 2f 2a 2f 1i 28a 2d 8a 2h 2a 6i 16f",
     "4i 16j 2k 2l 8p 1X 38a 2X 7a 1t 39a 1t 1a 1d 2X 2p 1m 1X 17b 1h 13b 10a 1i 9a 1b 3h 8X 27a 4X",
     "1t 5a 11X 4g 1m 1p 5j 1h 1a 9g 5j 1a 1o 1x 1h 1a 1l 26a 5j 19a 3d 3g 6h 1l 14a 2f 72a 2d 5a 1d",
     "15a 1d 30a 2g 10a 5d 1g 14d 1X 30d 3g 27d 2X 3g 30h 18j 49d 1f 14X 59i 2X 3t 46k 2X 15k 1X 28l",
     "2X 1l 1X 11s 5X 31x 1B 2x 5X 1A 8x 1m 1p 11m 6p 2q 1x 8r 10w 11x 1t 15r 1q 27m 1p 1k 3a 1g 53a",
     "2l 18a 1k 1l 5a 1k 2l 25a 2j 5l 1p 2k 2i 1h 2i 1p 3a 1X 8a 2X 2a 2X 22a 1X 7a 1X 1a 3X 4a 2X",
     "1a 1g 7a 2X 2a 2X 3a 1h 8X 1a 4X 2a 1X 5a 2X 21a 1k 2s 1t 2X 1g 1a 1g 1X 6a 4X 2a 2X 22a 1X 7a",
     "1X 2a 1X 2a 1X 2a 2X 1a 1X 5a 4X 2a 2X 3a 3X 1j 7X 4a 1X 1a 7X 15a 1j 1t 10X 3a 1X 7a 1g 1a 1X",
     "3a 1X 22a 1X 7a 1X 2a 1X 5a 2X 10a 1X 3a 1X 3a 2X 1a 15X 1a 3g 2X 10a 1m 1g 7X 1q 6s 1X 3a 1X",
     "8a 2X 2a 2X 22a 1X 7a 1X 2a 1X 1g 4a 2X 8a 1j 2X 2a 2X 3a 7X 1w 2a 4X 2a 1X 3a 2j 2X 11a 1g 6l",
     "10X 2a 1X 6a 3X 3a 1X 4a 3X 2a 1X 1a 1X 2a 3X 2a 3X 3a 3X 8a 1h 3a 4X 5a 3X 3a 1X 4a 2X 1j 6X",
     "1a 14X 1h 12a 8g 5X 1p 3a 1t 8a 1X 3a 1X 23a 1X 10a 1p 5a 2X 1x 1j 7a 1X 3a 1X 4a 7X 2a 1X 2j",
     "1q 1X 1B 1x 2X 2a 2j 2X 10a 7X 1u 8j 1r 1p 2a 1t 8a 1X 3a 1X 23a 1X 10a 1X 5a 2X 2g 7a 1X 3a",
     "1X 4a 7X 2a 5X 1B 1x 1a 1X 2a 2i 2X 10a 1X 2i 1y 12X 1s 1p 2a 1w 8a 1X 3a 1X 23a 1l 16a 1l 2s",
     "1j 6a 1j 1X 3a 1X 4a 1l 1r 4X 3r 1a 7r 1q 2a 2j 2X 10a 6j 3r 7j 1X 1w 2d 1X 18d 3X 24d 1X 9d",
     "1X 1d 2X 7d 3X 1d 4X 6d 1X 1d 1X 8d 6X 10p 2X 3d 12X 58a 4X 29a 37X 2a 1X 1a 1X 1u 2a 1u 1a 1X",
     "1u 1a 6u 4a 1u 7a 1u 3a 1X 1a 1X 1a 2u 2a 1u 13a 1u 3a 2X 5a 1X 1a 1X 6a 1y 1X 10a 2X 2a 2m",
     "32X 72b 1X 33b 1d 2j 4X 27b 4l 6b 1d 1b 1X 21b 3d 7b 1d 1b 3d 1X 15d 1X 1j 1d 2h 3j 4k 2l 37X",
     "34d 1j 5d 1j 2d 1j 7d 3j 4d 6j 26d 64j 4k 2j 38a 1X 1m 5X 1m 2X 39a 2f 2h 1a 1h 3m 90a 5k 68a",
     "5k 82a 6k 7d 1h 63d 1h 1d 1X 4d 2X 7d 1X 1d 1X 4d 2X 39d 1h 1d 1X 4d 2X 31d 1h 1d 1X 4d 2X 7d",
     "1X 1d 1X 4d 2X 7d 1h 7d 1X 23d 1h 31d 1h 1d 1X 4d 2X 7d 1h 39d 1h 19d 2X 2l 2h 28d 3X 26h 6X",
     "85d 1q 2X 6q 2X 1k 630d 9k 29d 3X 81d 8p 7X 13f 1x 7f 1x 9X 1x 23f 9X 20f 12X 13f 1X 3f 1X 2f",
     "12X 93d 1g 2X 10d 6X 10g 6X 15d 1x 10d 6X 88d 1t 7X 42d 1j 5X 70k 10X 29g 2p 1X 12g 4X 12g 4X",
     "1g 3X 42g 2X 5g 11X 42h 2k 4X 26h 6X 10h 1k 3X 2h 32g 28h 2X 2h 63k 1X 29k 2X 11k 6X 10k 6X",
     "14k 2X 15p 2w 14x 15B 2X 12B 20X 76i 1x 1X 2A 45i 2x 1A 43j 3m 12j 6m 52l 8X 4l 56j 3X 15j 3X",
     "51j 9r 2A 5X 43t 2X 3t 8m 8X 35k 4m 1s 2p 1u 5X 108g 88h 7i 28j 15p 4s 1x 1r 1l 1k 2i 155a 1b",
     "4j 90a 6j 22a 2X 6a 2X 38a 2X 6a 2X 8a 1X 1a 1X 1a 1X 1a 1X 31a 2X 53a 1X 15a 1X 14a 2X 6a 1X",
     "19a 2X 3a 1X 9a 1X 47a 1d 23a 1f 6d 5f 2g 2h 1f 7h 5f 1j 1X 4o 7a 1f 2X 27a 1X 5h 8l 3X 11a 1b",
     "1c 3d 2f 4h 3k 1l 1n 3p 1q 1s 1x 1B 14X 18a 2d 7f 1h 4i 1j 15X 57a 2d 1g 1h 15f 1h 2i 1j 3k",
     "48a 1d 1i 4j 1k 2q 4X 91a 9d 12f 242a 14f 1a 1d 121a 1d 1f 30d 52f 2g 11h 12i 1k 11l 7p 4r 1s",
     "37a 2d 3A 22X 11a 21X 139a 20f 1g 150a 10f 80a 8d 8f 20a 2g 2f 1h 1d 86a 2d 12f 2h 10f 8g 11h",
     "1j 2k 2g 16h 1i 10j 3k 4j 10k 1l 19k 1l 1k 4l 24k 1p 4a 1l 4a 2l 28a 1l 35a 1l 1a 1l 4a 3l 1a",
     "1k 7a 2l 7a 14f 31a 3l 24a 1l 14a 1l 7h 4i 1m 1j 1m 2l 28f 4j 16f 256d 512f 14g 6h 7i 5j 4i",
     "41j 3p 5j 5k 26p 2X 32p 1B 1w 34p 3t 12p 1u 8p 1s 25t 4q 15t 1u 47h 1x 47h 1x 13i 3j 1k 3j 4i",
     "6j 2k 107h 7k 2m 5X 45h 1X 1m 5X 1m 2X 54h 2m 7X 1h 1l 14X 1l 23h 9X 7h 1X 7h 1X 7h 1X 7h 1X",
     "7h 1X 7h 1X 7h 1X 7h 1X 32j 24h 4j 2h 19j 1k 10m 7p 2r 5s 5t 1u 3w 11x 34X 26d 1X 89d 12X 214d",
     "26X 12d 4z 56a 3d 3f 1d 1a 1X 84a 2f 2X 6a 2f 94a 1f 5X 40a 1j 1s 1t 1X 94a 1X 16a 24d 3l 5w",
     "16h 20j 2A 9X 1z 16f 29a 2g 1X 36a 12k 1g 15f 28a 2g 1h 50a 15f 12a 4g 47a 1v 119a 4g 99a 2g",
     "31a 1g 6582d 10w 64g 20902a 22h 8j 8k 1m 9q 21s 5t 13w 3x 1165d 3X 18d 2f 16d 1f 12d 1f 3d 1f",
     "1d 9X 48k 300j 20X 32j 2l 18j 8m 28j 6p 1q 1m 88k 8X 23h 4i 5j 2i 107j 2l 1q 2l 2m 12p 10l 1m",
     "3p 1r 1t 2p 6q 2t 6u 2x 5u 4w 3A 2B 2x 1B 1x 1B 5x 3A 20X 1B 3x 2w 1p 2m 1l 5j 44h 1w 3X 10k",
     "6X 56i 8X 69j 1r 8X 12j 6X 28k 2q 2t 84j 11X 1j 29k 3X 78k 1X 11k 4X 2k 31p 1X 55j 9X 14j 2X",
     "10j 2X 4j 28k 4p 67k 24X 5k 23m 10X 6l 2X 6l 2X 6l 9X 7l 1X 7l 1X 48p 4q 2p 2u 4w 4X 80q 46k",
     "2X 10k 6X 11172b 12X 23k 4X 49k 4X 2048b 6702a 2m 59f 3k 2X 106h 38X 7a 12X 5a 5X 1d 25a 1X 5a",
     "1X 1a 1X 2a 1X 2a 1X 108a 16l 1x 16B 365a 16x 64a 2B 54a 7B 1x 32e 12a 1f 1g 2x 16f 10h 6X 4a",
     "3j 7p 2q 21a 2f 2g 10a 1X 19a 1X 4a 4X 3a 1f 1a 1X 135a 2X 1a 1X 94a 2f 94a 3X 6a 2X 6a 2X 6a",
     "2X 3a 3X 7a 1X 7a 10X 3d 1c 3a 12g 1X 26g 1X 19g 1X 2g 1X 15g 2X 14g 34X 123g 5X 3g 4X 45g 3X",
     "9g 75h 2p 2r 1X 12j 1w 3X 1p 47X 46j 130X 29j 3X 49j 15X 28p 4X 31e 1p 4e 9X 3s 27e 5X 43p 5X",
     "30g 1X 1g 36h 4X 14h 42X 38e 2g 38e 80g 2X 10g 6X 36r 4X 36r 4X 40p 8X 52p 11X 1p 11x 1X 15x",
     "1X 7x 1X 2x 1X 11x 1X 15x 1X 7x 1X 2x 3X 52A 12X 311p 9X 22p 10X 8p 24X 6x 1X 42x 1X 9x 69X 6g",
     "2X 1g 1X 44g 1X 2g 3X 1g 2X 1g 22k 1X 9k 63p 8X 9p 48X 19q 1X 2q 5X 5q 26i 2k 3X 1i 26j 5X 1j",
     "26B 38X 56m 4X 2q 2m 16q 2X 46q 4h 1X 2h 5X 8h 1X 3h 1X 27h 2t 2X 3h 4X 9h 1t 7X 9h 7X 32k 32p",
     "32X 39p 4X 12p 9X 54k 3X 29k 2X 27k 5X 8k 18p 7X 4p 12X 7p 80X 73k 55X 51q 13X 51q 7X 6q 40t",
     "8X 10t 6X 38A 3X 29A 8X 2A 208X 31k 1X 42w 1X 3w 2X 2w 16X 3A 3B 8X 9B 33X 2B 1A 3y 40t 8X 42t",
     "22X 26x 38X 28w 20X 23u 9X 78l 4X 30l 6x 9X 1p 66k 1x 10X 1t 2X 25m 7X 10m 6X 53m 1X 14m 3t 1w",
     "8X 39p 9X 73m 4q 1p 2w 10m 1p 5q 1X 20p 11X 18p 1X 43p 1r 3y 62X 7q 1X 1q 1X 4q 1X 15q 1X 11q",
     "6X 59p 5X 10p 6X 1q 3p 1X 8p 2X 2p 2X 22p 1X 7p 1X 2p 1X 5p 1X 1t 9p 2X 2p 2X 3p 2X 1q 6X 1p",
     "5X 7p 2X 7p 3X 5p 11X 10A 1X 1A 2X 1A 1X 38A 1X 10A 1X 1A 2X 1A 1X 4A 1X 10A 1X 2A 8X 2A 29X",
     "90r 1w 1r 1X 1r 1t 1u 2w 30X 72p 8X 10p 166X 54p 2X 18p 20q 34X 69p 11X 10p 6X 13r 19X 56m 1u",
     "1x 6X 10m 6X 20A 28X 26q 1t 2X 15q 4X 16q 7x 185X 60t 100X 83p 12X 1p 7w 2X 1w 2X 8w 1X 2w 1X",
     "30w 1X 2w 2X 12w 9X 10w 70X 8u 2X 46u 2X 11u 27X 72s 8X 52s 2u 23s 1t 5s 13X 16x 57p 7X 10y",
     "86X 8B 88X 34A 14X 10A 6X 9r 1X 45r 1X 14r 10X 29r 3X 32r 2X 22r 1X 14r 73X 7s 1X 2s 1X 44s 3X",
     "1s 1X 2s 1X 9s 8X 10s 6X 6t 1X 2t 1X 37t 1X 2t 1X 6t 7X 10t 6X 44B 4X 10B 246X 25t 7X 17y 1X",
     "41y 3X 28y 1A 85X 1w 15X 50u 13X 1u 879i 42p 1q 102X 99i 12p 1X 4i 1p 11X 196q 2636X 99x 13X",
     "1071k 1y 9u 29y 10X 3995A 5X 583q 6841X 58A 1734X 569l 7X 31p 1X 10p 4X 2p 79x 1X 10x 6X 30p",
     "2X 6p 10X 70p 10X 10p 1X 7p 1X 21p 5X 19p 432X 58A 198X 91t 5X 25B 2X 25B 44X 69m 6u 4X 1u 47m",
     "9u 7X 17m 64X 1r 1s 2u 1w 11X 2w 5B 9X 6125r 5t 6u 8B 755r 483w 41X 1A 9w 22B 97X 115B 8701X",
     "4x 1X 7x 1X 2x 1X 2l 285s 4x 15X 1y 29X 3u 2X 1y 14X 4u 8X 396s 2308X 107p 5X 13p 3X 9p 7X 10p",
     "2X 8p 3932X 250A 3B 3X 436A 6X 23B 15X 17B 15X 46x 2X 23x 9X 116x 60X 246e 10X 39e 2X 1j 180e",
     "11q 2x 21X 70h 122X 20y 12X 20t 12X 87g 9X 18i 7t 135X 85e 1X 71e 1X 2e 2X 1e 2X 2e 2X 4e 1X",
     "12e 1X 1e 1X 4e 1g 2e 1X 65e 1X 4e 2X 8e 1X 7e 1X 28e 1X 4e 1X 5e 1X 1e 3X 7e 1X 338e 2h 2X",
     "290e 2i 2X 50e 652q 15X 5q 1X 15q 1104X 31x 6X 6y 213X 7r 1X 17r 2X 7r 1X 2r 1X 5r 5X 62y 33X",
     "1y 112X 45u 3X 14u 2X 10u 4X 2u 320X 31x 17X 58u 5X 1u 464X 42y 214X 43A 4X 1A 192X 31B 1X 22B",
     "8X 2B 224X 7x 1X 4x 1X 2x 1X 15x 1X 197p 2X 16p 41X 75r 1u 4X 10r 4X 2r 785X 68t 76X 61u 194X",
     "4m 1X 27m 1X 2m 1X 1m 2X 1m 1X 10m 1X 4m 1X 1m 1X 1m 6X 1m 4X 1m 1X 1m 1X 1m 1X 3m 1X 2m 1X 1m",
     "2X 1m 1X 1m 1X 1m 1X 1m 1X 1m 1X 2m 1X 1m 2X 4m 1X 7m 1X 4m 1X 4m 1X 1m 1X 10m 1X 17m 5X 3m 1X",
     "5m 1X 17m 52X 2m 270X 44j 4X 100j 12X 15l 2X 14l 1p 1X 15l 1X 15l 22p 10X 11k 2p 3w 31k 1t 1l",
     "1k 11l 1k 1l 1k 2l 1k 3l 1k 3l 5k 8l 1k 7l 1k 10l 2m 1u 3w 9l 1k 1l 2k 2l 1k 10l 4k 2l 1k 10l",
     "18r 1w 56X 26l 1k 2l 13X 34k 9l 1r 4X 9k 7X 2l 14X 6s 154X 33l 12p 3q 6l 1p 70l 1p 2q 20l 12p",
     "37l 1p 5l 4p 5q 12p 17l 7p 8q 63l 1p 1l 1p 182l 1p 4l 2p 1q 62l 2p 4m 7p 5q 24l 18p 1r 41p 1r",
     "86p 5l 1m 16l 1m 3l 1m 1l 1m 1l 1m 1l 1m 3l 1m 6l 2m 4l 1m 1l 2m 4l 1m 12l 2p 2q 11l 48p 70l",
     "10p 1q 2r 2s 1u 2w 1B 3X 1y 3x 13p 3X 4p 3r 2s 1t 1u 2w 3X 116l 3y 4B 5y 85p 4t 1y 6X 12u 4X",
     "1x 15X 12p 4X 56p 8X 10p 6X 40p 8X 30p 2X 2w 10A 4X 2A 14X 9B 39X 12s 1w 3u 9q 6r 1s 8r 8s 1r",
     "2s 12r 1u 12r 1s 3t 15r 13s 5t 1u 1w 4t 2w 1x 1t 1u 4t 5q 13r 6s 11t 2w 6u 3w 2u 10t 6u 1q 2t",
     "8u 1w 1x 3u 23s 25t 84u 4B 8X 14t 2X 4u 1w 3y 3u 2x 3X 3u 4w 2y 1A 1B 3X 1B 1A 6u 19w 4x 3y 7w",
     "4x 3y 1A 1y 3w 3x 1A 1X 1B 4X 1B 2y 7w 3x 2y 1A 2X 1A 8x 1y 1A 1B 4X 1B 7x 2y 7X 147w 1X 55w",
     "37A 10w 1B 1027X 2b 42711e 7w 2x 32X 4149k 4x 1y 6B 222l 2X 5762q 12B 2X 7473s 15X 622z 2466X",
     "542e 1504X 2b 4939w 5X 4192y 4298B 52100X 2b 65534X 2b 65534X 2b 65534X 2b 65534X 2b 65534X 2b",
     "65534X 2b 65534X 2b 65534X 2b 65534X 2b 65534X 2b 1X 1e 30X 96e 128X 240g 65038X 131074b"]

end Text
end AppLint
