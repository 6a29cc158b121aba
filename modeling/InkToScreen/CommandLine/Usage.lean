import InkToScreen.CommandLine.UsageError

namespace InkToScreen.CommandLine

/-- The synopsis, printed before an error and at the head of the help text. -/
def usage : String :=
  "usage: cmyk2srgbjpeg [-h] [--backstop-profile BACKSTOP_PROFILE]\n" ++
  "                     [--srgb-profile SRGB_PROFILE] [--quality QUALITY]\n" ++
  "                     [--extension EXTENSION]\n" ++
  "                     [--intent \x7bperceptual,relative,saturation,absolute\x7d] [-v]\n" ++
  "                     INPUT_IMAGE OUTPUT_IMAGE_NAME_BEFORE_EXTENSION\n"

def help : String :=
  usage ++
  "\n" ++
  "Если INPUT_IMAGE в CMYK, переводит его в sRGB и сохраняет как\n" ++
  "OUTPUT_IMAGE_NAME_BEFORE_EXTENSION.jpg. Иначе ничего не делает.\n" ++
  "\n" ++
  "positional arguments:\n" ++
  "  INPUT_IMAGE\n" ++
  "  OUTPUT_IMAGE_NAME_BEFORE_EXTENSION\n" ++
  "\n" ++
  "options:\n" ++
  "  -h, --help            show this help message and exit\n" ++
  "  --backstop-profile BACKSTOP_PROFILE\n" ++
  "                        CMYK ICC-профиль на случай отсутствия пригодного\n" ++
  "                        встроенного\n" ++
  "  --srgb-profile SRGB_PROFILE\n" ++
  "                        Файл целевого sRGB-профиля; если не задан,\n" ++
  "                        используется встроенный sRGB-профиль Pillow и файл не\n" ++
  "                        нужен\n" ++
  "  --quality QUALITY     Качество JPEG, 0..100 (по умолчанию 99)\n" ++
  "  --extension EXTENSION\n" ++
  "                        Расширение JPEG без точки (по умолчанию jpg)\n" ++
  "  --intent \x7bperceptual,relative,saturation,absolute\x7d\n" ++
  "                        Намерение рендеринга (по умолчанию relative)\n" ++
  "  -v, --verbose         Подробный журнал в stderr\n" ++
  "\n" ++
  "Коды выхода: 0 не CMYK, 1 ошибка, 2 встроенный профиль непригоден, 3\n" ++
  "встроенного профиля нет, 4 использован встроенный профиль.\n"

def UsageError.report (error : UsageError) : String :=
  usage ++ "cmyk2srgbjpeg: error: " ++ error.message ++ "\n"

end InkToScreen.CommandLine
