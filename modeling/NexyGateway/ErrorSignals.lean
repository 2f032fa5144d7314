import Mathlib.Data.List.Basic

/-!
# Error codes

The enumerations of `lib/error_signals.py` that the lift path returns by name.
-/
namespace NexyGateway

/-- `MbCode` without its `SOURCE` entry, which names the handler. -/
inductive MbCode where
  | NO_ERR | ARG_ERR | ARG_INT_ERR | COM_ERR | REG_ERR | LCM_ERR | LOG_TYPE_ERR | LOG_ERR_CNT
  | LOG_SAVE_ERR | LOG_RUN_ERR | LOG_NO_LD_ERR | LOG_REC_LEN_ERR | LOG_RSP_ERR | LOG_LD_PARSE_ERR
  | LOG_FNAME_ERR | LOG_ATTR_ERR | FILE_EMPTY | FILE_NOT_FOUND | FILE_TRANSFER_ERR | LINK_ERR
  | DISK_LIMIT_ERR | FILE_NAME_ERR | FILE_HEADER_ERR | CUSTOM_SPEED_ERR | FLOOR_LOCK_ERR
  | PARAM_NOT_IN_DB | PARAM_NOT_SET
  deriving DecidableEq, Repr

/-- `MbCode.SOURCE`, the handler name in every reply triple. -/
def MbCode.source : String := "ModBusHandler"

/-- `Rs232Code` without its `SOURCE` entry. -/
inductive Rs232Code where
  | NO_ERR | ARG_TYPE_ERR | ARGS_IN_ELEM_ATTR_ERR | ARGS_IN_LEN_ERR | ARGS_IN_ELEM_INT_ERR
  | SERIAL_COM_ERR | JSON_ERR | JSON_KEY_ERR | JSON_VALUE_TYPE_ERR | STATUS_ERR
  | STATUS_FILE_IO_ERR | STATUS_FILE_EXCEPTION | CMD_NOT_SUPPORTED | NO_WAITING_BYTES_ERR
  | DATA_TYPE_ERR | NO_UPDATED_PARAMS | PARTIAL_ERR | PARAM_NOT_IN_DB | PARAM_NOT_SET
  | NO_PARAMS_IN_DB | DATA_LEN_ERR | LOG_FILE_EXCEPTION | LOG_FILE_IO_ERR
  | LOG_FILE_ALREADY_EXIST | DATA_ERR | FILE_NAME_ERR | LIST_INDEX_ERR
  | WRITE_PARAM_NOT_SUPPORTED_BY_1K | WRITE_PARAM_NOT_IN_FILES | PACKAGE_NOT_SUPPORTED
  | SERIAL_DECODE_ERR | FLOOR_LOCK_ERR | VFD_TIMEOUT_ERR | VFD_NO_PWR_ERR | VFD_ID_ERR
  deriving DecidableEq, Repr

def Rs232Code.source : String := "Rs232Handler"

end NexyGateway
